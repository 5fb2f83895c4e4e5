import HdfsOperator.Correctness.Overrides
import HdfsOperator.Correctness.Scripts
import HdfsOperator.Correctness.VectorAgent
import HdfsOperator.Models.Containers

/-!
# Containers and what they find

The mounts of a container name volumes and claims of its pod. One of them is the ConfigMap of the
role group, and the first commands of the script copy files from there to the directory that
`HADOOP_CONF_DIR` names. Later steps of the builder only add to what a role supplies. The lines of
a script and the mounts that the operator framework supplies are parameters.
-/

namespace HdfsOperator

open Directories (Ends hasExtension)

/-- The components of the containers that a role supplies. -/
def roleComponents (r : Role) : List ContainerComponent := mainComponents r ++ initComponents r

section Template

variable {fw : PodFramework} {b : StatefulSetBuilder} {o : RangeOrder} {r : Role}
  {t : PodTemplate}

/-- The main containers of a role are those of its components. -/
theorem getMainContainers_eq (b : StatefulSetBuilder) (r : Role) : b.getMainContainers r =
    (mainComponents r).map fun k => b.makeContainer k.getContainerName := by
  cases r <;> rfl

/-- The init containers of a role are those of its components. -/
theorem getInitContainers_eq_ok {l : List Container} (h : b.getInitContainers fw o r = .ok l) :
    l = (initComponents r).map fun k => b.makeContainer k.getContainerName := by
  cases r with
  | nameNode =>
    obtain ⟨k, hk, h⟩ := Go.bind_eq_ok.mp h
    cases h
    obtain ⟨n, -, hk⟩ := Go.bind_eq_ok.mp hk
    obtain ⟨names, -, hk⟩ := Go.bind_eq_ok.mp hk
    cases hk
    rfl
  | dataNode =>
    obtain ⟨k, hk, h⟩ := Go.bind_eq_ok.mp h
    cases h
    obtain ⟨args, -, hk⟩ := Go.bind_eq_ok.mp hk
    cases hk
    rfl
  | journalNode =>
    cases h
    rfl

/-- The names of the volumes of a role besides those of the ConfigMap. -/
def listenerNames : Role → List String
  | .dataNode => ["listener"]
  | .nameNode | .journalNode => []

/-- The names of the claims of a role. -/
def claimNames : Role → List String
  | .nameNode => ["data", "listener"]
  | .dataNode | .journalNode => ["data"]

/-- The names of the volumes that all roles share. -/
def commonNames (kerberos tls : Bool) : List String :=
  ["log"] ++ (if kerberos then ["kerberos"] else []) ++ (if tls then ["tls", "tls"] else [])

/-- The names of the volumes and claims of a role. -/
def volumeNames (kerberos tls : Bool) (r : Role) : List String :=
  commonNames kerberos tls ++ (StatefulSetBuilder.configVolumeNames r ++ listenerNames r) ++
    claimNames r

/-- The volumes that all roles have. -/
theorem getCommonVolumes_names (clusterConfig : ClusterConfigSpec) (instanceName : String)
    (r : Role) (info : RoleGroupInfo) :
    (getCommonVolumes clusterConfig instanceName r info).map Volume.name =
      commonNames (isKerberosEnabled clusterConfig) (isTlsEnabled clusterConfig) := by
  unfold getCommonVolumes isKerberosEnabled isTlsEnabled commonNames
  cases clusterConfig.authentication with
  | none => rfl
  | some a =>
    cases hk : a.kerberos <;> cases ht : a.tls <;>
      simp [hk, ht, createKerberosSecretPvc, createTlsSecretPvc]

/-- The volumes that have the ConfigMap of the role group as their content. -/
def configVolumes (b : StatefulSetBuilder) (r : Role) : List Volume :=
  (StatefulSetBuilder.configVolumeNames r).map fun name =>
    ⟨name, .configMap (b.roleGroupInfo r).getFullName⟩

/-- The volumes for the files of a role. -/
theorem configVolumes_names (b : StatefulSetBuilder) (r : Role) :
    (configVolumes b r).map Volume.name = StatefulSetBuilder.configVolumeNames r := by
  rw [configVolumes, List.map_map]
  exact List.map_id _

/-- The volumes of a role are those for files and those for listeners. -/
theorem getVolumes_eq_ok {volumes : List Volume} (h : b.getVolumes r = .ok volumes) :
    ∃ listeners, volumes = configVolumes b r ++ listeners ∧
      listeners.map Volume.name = listenerNames r := by
  cases r with
  | dataNode =>
    obtain ⟨listener, hlistener, h⟩ := Go.bind_eq_ok.mp h
    cases h
    obtain ⟨listenerClass, -, hlistener⟩ := Go.bind_eq_ok.mp hlistener
    cases hlistener
    exact ⟨_, rfl, rfl⟩
  | nameNode =>
    cases h
    exact ⟨[], (List.append_nil _).symm, rfl⟩
  | journalNode =>
    cases h
    exact ⟨[], (List.append_nil _).symm, rfl⟩

/-- No other volume has the name of a volume for the ConfigMap. -/
theorem configVolumeNames_other {name : String}
    (h : name ∈ StatefulSetBuilder.configVolumeNames r) :
    (∀ kerberos tls, name ∉ commonNames kerberos tls) ∧ name ∉ listenerNames r := by
  have hfacts : ∀ name ∈ StatefulSetBuilder.configVolumeNames r,
      name ∉ ["log", "kerberos", "tls"] ∧ name ∉ listenerNames r := by cases r <;> decide +kernel
  obtain ⟨hcommon, hlistener⟩ := hfacts name h
  refine ⟨fun kerberos tls hmem => hcommon ?_, hlistener⟩
  cases kerberos <;> cases tls <;> simp [commonNames] at hmem ⊢ <;> tauto

/-- The claim of a data directory has one name in all roles. -/
theorem createDataPvcTemplate_name {claim : PersistentVolumeClaim}
    (h : b.createDataPvcTemplate r = .ok claim) : claim.name = "data" := by
  have hdefaulted (h : b.createDefaultedDataPvcTemplate = .ok claim) : claim.name = "data" := by
    obtain ⟨config, -, h⟩ := Go.bind_eq_ok.mp h
    split at h
    · cases h
      rfl
    · cases h
      rfl
  cases r with
  | nameNode => exact hdefaulted h
  | journalNode => exact hdefaulted h
  | dataNode =>
    obtain ⟨config, -, h⟩ := Go.bind_eq_ok.mp h
    obtain ⟨resources, -, h⟩ := Go.bind_eq_ok.mp h
    obtain ⟨storage, -, h⟩ := Go.bind_eq_ok.mp h
    cases h
    rfl

/-- The claims of a role. -/
theorem getVolumeClaimTemplates_names {claims : List PersistentVolumeClaim}
    (h : b.getVolumeClaimTemplates r = .ok claims) :
    claims.map PersistentVolumeClaim.name = claimNames r := by
  obtain ⟨data, hdata, h⟩ := Go.bind_eq_ok.mp h
  have hname := createDataPvcTemplate_name hdata
  cases r with
  | nameNode =>
    cases h
    simp [hname, claimNames, StatefulSetBuilder.createNameNodeListenPvcTemplate]
  | dataNode =>
    cases h
    simp [hname, claimNames]
  | journalNode =>
    cases h
    simp [hname, claimNames]

/-- What a role supplies for its pods. -/
structure Supplies (b : StatefulSetBuilder) (r : Role) (t : PodTemplate) : Prop where
  containers : t.containers = (mainComponents r).map fun k => b.makeContainer k.getContainerName
  initContainers :
    t.initContainers = (initComponents r).map fun k => b.makeContainer k.getContainerName
  names : t.volumes.map Volume.name ++ t.volumeClaimTemplates.map PersistentVolumeClaim.name =
    volumeNames (isKerberosEnabled b.instance'.clusterConfig)
      (isTlsEnabled b.instance'.clusterConfig) r
  claims : t.volumeClaimTemplates.map PersistentVolumeClaim.name = claimNames r
  /-- A volume with the name of a volume for the ConfigMap is that volume. -/
  configMaps : ∀ name ∈ StatefulSetBuilder.configVolumeNames r, ∀ v : Volume,
    v ∈ t.volumes ∧ v.name = name ↔ v = ⟨name, .configMap (b.roleGroupInfo r).getFullName⟩

/-- What a role supplies is in its template. -/
theorem supplies_of_componentTemplate (h : b.componentTemplate fw o r = .ok t) :
    Supplies b r t := by
  obtain ⟨init, hinit, h⟩ := Go.bind_eq_ok.mp h
  obtain ⟨volumes, hvolumes, h⟩ := Go.bind_eq_ok.mp h
  obtain ⟨claims, hclaims, h⟩ := Go.bind_eq_ok.mp h
  cases h
  obtain ⟨listeners, rfl, hlisteners⟩ := getVolumes_eq_ok hvolumes
  let common := getCommonVolumes b.instance'.clusterConfig b.instance'.name.val r
    (b.roleGroupInfo r)
  have hcommon : common.map Volume.name = _ := getCommonVolumes_names _ _ r _
  refine ⟨getMainContainers_eq b r, getInitContainers_eq_ok hinit, ?_,
    getVolumeClaimTemplates_names hclaims, fun name hname v => ?_⟩
  · rw [List.map_append, List.map_append, hcommon, configVolumes_names, hlisteners,
      getVolumeClaimTemplates_names hclaims]
    rfl
  · obtain ⟨hnotCommon, hnotListener⟩ := configVolumeNames_other hname
    constructor
    · rintro ⟨hv, rfl⟩
      rcases List.mem_append.mp hv with hv | hv
      · exact absurd (hcommon ▸ List.mem_map_of_mem hv) (hnotCommon _ _)
      · rcases List.mem_append.mp hv with hv | hv
        · obtain ⟨name, -, rfl⟩ := List.mem_map.mp hv
          rfl
        · exact absurd (hlisteners ▸ List.mem_map_of_mem hv) hnotListener
    · rintro rfl
      exact ⟨List.mem_append_right _ (List.mem_append_left _ (List.mem_map_of_mem hname)), rfl⟩

/-- Only the log agent and the OIDC proxy are added to a pod, and only behind what is there. -/
structure Grows (t t' : PodTemplate) : Prop where
  containers : ∃ l, t'.containers = t.containers ++ l ∧
    ∀ k ∈ l, k.name = vectorContainer ∨ k.name = oidcContainer
  initContainers : t'.initContainers = t.initContainers
  volumes : ∃ l, t'.volumes = t.volumes ++ l
  volumeClaimTemplates : t'.volumeClaimTemplates = t.volumeClaimTemplates

theorem Grows.refl (t : PodTemplate) : Grows t t :=
  ⟨⟨[], by simp⟩, rfl, ⟨[], by simp⟩, rfl⟩

/-- One addition after the other. -/
theorem Grows.trans {t t' t'' : PodTemplate} (h : Grows t t') (h' : Grows t' t'') :
    Grows t t'' := by
  obtain ⟨l, hl, hnames⟩ := h.containers
  obtain ⟨l', hl', hnames'⟩ := h'.containers
  obtain ⟨v, hv⟩ := h.volumes
  obtain ⟨v', hv'⟩ := h'.volumes
  refine ⟨⟨l ++ l', ?_, fun k hk => ?_⟩, h'.initContainers.trans h.initContainers,
    ⟨v ++ v', ?_⟩, h'.volumeClaimTemplates.trans h.volumeClaimTemplates⟩
  · rw [hl', hl, List.append_assoc]
  · rcases List.mem_append.mp hk with hk | hk
    · exact hnames k hk
    · exact hnames' k hk
  · rw [hv', hv, List.append_assoc]

/-- The log agent takes nothing away. -/
theorem addVectorContainer_grows {t' : PodTemplate} (h : b.addVectorContainer fw t = .ok t') :
    Grows t t' := by
  rw [StatefulSetBuilder.addVectorContainer_eq] at h
  obtain ⟨enabled, -, h⟩ := Go.bind_eq_ok.mp h
  split at h
  · cases h
    exact ⟨⟨_, rfl, by simp⟩, rfl, ⟨_, rfl⟩, rfl⟩
  · cases h
    exact .refl t

/-- The proxy takes nothing away. -/
theorem addOIDCContainer_grows {t' : PodTemplate} (h : b.addOIDCContainer fw t = .ok t') :
    Grows t t' := by
  unfold StatefulSetBuilder.addOIDCContainer at h
  split at h
  · cases h
    exact .refl t
  · split at h
    · cases h
      exact .refl t
    · obtain ⟨oidc, hoidc, h⟩ := Go.bind_eq_ok.mp h
      cases h
      refine ⟨⟨oidc.toList, rfl, fun k hk => .inr ?_⟩, rfl, ⟨[], by simp⟩, rfl⟩
      rw [Option.mem_toList] at hk
      rw [hk] at hoidc
      exact StatefulSetBuilder.makeOidcContainer_name hoidc

/-- The OIDC proxy changes no volume, and its container is not that of the log agent. -/
theorem addOIDCContainer_keeps {t' : PodTemplate} (h : b.addOIDCContainer fw t = .ok t') :
    t'.volumes = t.volumes ∧ (t'.HasVector → t.HasVector) := by
  unfold StatefulSetBuilder.addOIDCContainer at h
  split at h
  · cases h
    exact ⟨rfl, id⟩
  · split at h
    · cases h
      exact ⟨rfl, id⟩
    · obtain ⟨oidc, hoidc, h⟩ := Go.bind_eq_ok.mp h
      cases h
      refine ⟨rfl, ?_⟩
      rintro ⟨k, hk, hname⟩
      rcases List.mem_append.mp hk with hk | hk
      · exact ⟨k, hk, hname⟩
      · rw [Option.mem_toList] at hk
        rw [hk] at hoidc
        rw [StatefulSetBuilder.makeOidcContainer_name hoidc] at hname
        exact absurd hname (by decide)

/-- A pod with the log agent has the volumes that its role supplies, and those of the agent. -/
theorem volumes_of_hasVector (h : b.podTemplate fw o r = .ok t) (hvector : t.HasVector) :
    ∃ supplied, Supplies b r supplied ∧
      t.volumes = supplied.volumes ++ (StatefulSetBuilder.getVectorFactory fw).volumes := by
  obtain ⟨component, hcomponent, h⟩ := Go.bind_eq_ok.mp h
  obtain ⟨t', ht', h⟩ := Go.bind_eq_ok.mp h
  obtain ⟨hvolumes, hkeeps⟩ := addOIDCContainer_keeps h
  refine ⟨component, supplies_of_componentTemplate hcomponent, ?_⟩
  rw [StatefulSetBuilder.addVectorContainer_eq] at ht'
  obtain ⟨enabled, -, ht'⟩ := Go.bind_eq_ok.mp ht'
  split at ht'
  · cases ht'
    exact hvolumes
  · cases ht'
    exact absurd (hkeeps hvector)
      (StatefulSetBuilder.not_hasVector_of_componentTemplate hcomponent)

/-- A pod is what its role supplies, with more behind it. -/
theorem podTemplate_eq_ok (h : b.podTemplate fw o r = .ok t) :
    ∃ supplied, Supplies b r supplied ∧ Grows supplied t := by
  obtain ⟨component, hcomponent, h⟩ := Go.bind_eq_ok.mp h
  obtain ⟨vector, hvector, h⟩ := Go.bind_eq_ok.mp h
  exact ⟨component, supplies_of_componentTemplate hcomponent,
    (addVectorContainer_grows hvector).trans (addOIDCContainer_grows h)⟩

/-- Different components have different container names. -/
theorem getContainerName_injective : Function.Injective ContainerComponent.getContainerName := by
  intro k k' h
  cases k <;> cases k' <;> first | rfl | exact absurd h (by decide)

/-- No component is called like the log agent. -/
theorem getContainerName_ne_vector (k : ContainerComponent) :
    k.getContainerName ≠ vectorContainer := by
  cases k <;> decide

/-- The containers of a pod are those of the components of its role, the log agent and the OIDC
proxy. -/
theorem component_of_container (h : b.podTemplate fw o r = .ok t) {k : ContainerComponent}
    (hk : k.getContainerName ∈ (t.containers ++ t.initContainers).map Container.name) :
    k = .oidc ∨ k ∈ roleComponents r := by
  obtain ⟨supplied, hsupplied, hgrows⟩ := podTemplate_eq_ok h
  obtain ⟨l, hl, hnames⟩ := hgrows.containers
  have hname (ks : List ContainerComponent)
      (hks : k.getContainerName ∈
        (ks.map fun k => b.makeContainer k.getContainerName).map Container.name) : k ∈ ks := by
    rw [List.map_map] at hks
    obtain ⟨k', hk', heq⟩ := List.mem_map.mp hks
    rwa [← getContainerName_injective heq]
  rw [hl, hgrows.initContainers, hsupplied.containers, hsupplied.initContainers, List.map_append,
    List.map_append, List.mem_append, List.mem_append] at hk
  rcases hk with (hk | hk) | hk
  · exact .inr (List.mem_append_left _ (hname _ hk))
  · obtain ⟨container, hmem, heq⟩ := List.mem_map.mp hk
    rcases hnames container hmem with hvector | hoidc
    · exact absurd (heq.symm.trans hvector) (getContainerName_ne_vector k)
    · exact .inl (getContainerName_injective (heq.symm.trans hoidc))
  · exact .inr (List.mem_append_right _ (hname _ hk))

end Template

/-- The components of a role use volumes of the role, and find their log settings in its files. -/
theorem roleComponents_facts (r : Role) : ∀ k ∈ roleComponents r, k ≠ .oidc ∧
    k.configVolumeName ∈ StatefulSetBuilder.configVolumeNames r ∧
    k.logVolumeName ∈ StatefulSetBuilder.configVolumeNames r ∧
    (∀ m ∈ k.dataVolumeMounts, m.name ∈ listenerNames r ++ claimNames r) ∧
    createComponentLog4jPropertiesName k.getContainerName ∈ configFileNames r := by
  cases r <;> decide +kernel

/-- The mounts of a component name volumes and claims of its role. -/
theorem mount_mem_volumeNames (clusterConfig : ClusterConfigSpec) {r : Role}
    {k : ContainerComponent} (hk : k ∈ roleComponents r) {m : VolumeMount}
    (hm : m ∈ k.getVolumeMounts clusterConfig) :
    m.name ∈ volumeNames (isKerberosEnabled clusterConfig) (isTlsEnabled clusterConfig) r := by
  have hcommon : ∀ m ∈ getCommonVolumeMounts clusterConfig,
      m.name ∈ commonNames (isKerberosEnabled clusterConfig) (isTlsEnabled clusterConfig) := by
    unfold getCommonVolumeMounts
    cases isKerberosEnabled clusterConfig <;> cases isTlsEnabled clusterConfig <;> decide
  obtain ⟨hne, hc, hl, hd, -⟩ := roleComponents_facts r k hk
  rw [ContainerComponent.getVolumeMounts, if_neg hne] at hm
  simp only [List.mem_append, List.mem_cons, List.not_mem_nil, or_false] at hm
  simp only [volumeNames, List.mem_append]
  rcases hm with (hm | rfl | rfl) | hm
  · exact .inl (.inl (hcommon m hm))
  · exact .inl (.inr (.inl hc))
  · exact .inl (.inr (.inl hl))
  · rcases List.mem_append.mp (hd m hm) with hm | hm
    · exact .inl (.inr (.inr hm))
    · exact .inr hm

/-- A container has no two mounts at one path. -/
theorem mountPaths_nodup (clusterConfig : ClusterConfigSpec) (k : ContainerComponent) :
    ((k.getVolumeMounts clusterConfig).map VolumeMount.mountPath).Nodup := by
  unfold ContainerComponent.getVolumeMounts getCommonVolumeMounts
  cases isKerberosEnabled clusterConfig <;> cases isTlsEnabled clusterConfig <;> cases k <;>
    decide +kernel

/-- The names of volumes and claims are distinct exactly when TLS is off. -/
theorem volumeNames_nodup_iff (kerberos tls : Bool) (r : Role) :
    (volumeNames kerberos tls r).Nodup ↔ tls = false := by
  cases kerberos <;> cases tls <;> cases r <;> decide +kernel

/-- The log agent mounts the volumes that it is handed, and volumes of its own. -/
def PodFramework.MountsHanded (fw : PodFramework) : Prop :=
  ∀ configVolume logVolume, ∀ m ∈ (fw.newVector configVolume logVolume).volumeMounts,
    m.name = configVolume ∨ m.name = logVolume ∨
      m.name ∈ (fw.newVector configVolume logVolume).volumes.map Volume.name

/-- The mounts of the log agent name volumes of its pod. -/
theorem vector_mounts_resolve {fw : PodFramework} {b : StatefulSetBuilder} {o : RangeOrder}
    {r : Role} {t : PodTemplate} (h : b.podTemplate fw o r = .ok t) (hfw : fw.MountsHanded)
    (hvector : t.HasVector) : ∀ m ∈ (StatefulSetBuilder.getVectorFactory fw).volumeMounts,
      m.name ∈ t.volumes.map Volume.name ++
        t.volumeClaimTemplates.map PersistentVolumeClaim.name := by
  obtain ⟨supplied, hsupplied, hvolumes⟩ := volumes_of_hasVector h hvector
  -- The two volumes that the agent is handed are volumes that the role supplies.
  have hhanded : ∀ name ∈ ["hdfs-config", "log"], name ∈ supplied.volumes.map Volume.name := by
    have hconfig : "hdfs-config" ∈ StatefulSetBuilder.configVolumeNames r := by
      cases r <;> decide
    intro name hname
    rcases List.mem_cons.mp hname with rfl | hname
    · exact List.mem_map.mpr ⟨_, (hsupplied.configMaps _ hconfig _).mpr rfl⟩
    · rw [List.mem_singleton.mp hname]
      have hlog : "log" ∈ supplied.volumes.map Volume.name ++
          supplied.volumeClaimTemplates.map PersistentVolumeClaim.name := by
        rw [hsupplied.names]
        simp [volumeNames, commonNames]
      refine (List.mem_append.mp hlog).resolve_right fun hclaim => ?_
      rw [hsupplied.claims] at hclaim
      revert hclaim
      cases r <;> decide
  intro m hm
  rw [hvolumes, List.map_append]
  refine List.mem_append_left _ (List.mem_append.mpr ?_)
  rcases hfw _ _ m hm with hname | hname | hname
  · exact .inl (hhanded _ (by simp [hname]))
  · exact .inl (hhanded _ (by simp [hname]))
  · exact .inr hname

/-- Every mount of a Hadoop container or of the OIDC proxy names a volume or a claim of the pod, and
no such container has two mounts at one path. So do the mounts of the log agent, if it mounts what
it is handed. The volumes and claims that the role supplies have distinct names exactly when TLS is
off. -/
theorem podTemplate_mounts_resolve {fw : PodFramework} {b : StatefulSetBuilder} {o : RangeOrder}
    {r : Role} {t : PodTemplate} (h : b.podTemplate fw o r = .ok t) :
    (∀ k : ContainerComponent,
      k.getContainerName ∈ (t.containers ++ t.initContainers).map Container.name →
        (∀ m ∈ k.getVolumeMounts b.instance'.clusterConfig,
          m.name ∈ t.volumes.map Volume.name ++
            t.volumeClaimTemplates.map PersistentVolumeClaim.name) ∧
        ((k.getVolumeMounts b.instance'.clusterConfig).map VolumeMount.mountPath).Nodup) ∧
    (fw.MountsHanded → t.HasVector →
      ∀ m ∈ (StatefulSetBuilder.getVectorFactory fw).volumeMounts,
        m.name ∈ t.volumes.map Volume.name ++
          t.volumeClaimTemplates.map PersistentVolumeClaim.name) ∧
    ∃ supplied, Supplies b r supplied ∧ Grows supplied t ∧
      ((supplied.volumes.map Volume.name ++
        supplied.volumeClaimTemplates.map PersistentVolumeClaim.name).Nodup ↔
          isTlsEnabled b.instance'.clusterConfig = false) := by
  obtain ⟨supplied, hsupplied, hgrows⟩ := podTemplate_eq_ok h
  obtain ⟨added, hadded⟩ := hgrows.volumes
  refine ⟨fun k hk => ⟨fun m hm => ?_, mountPaths_nodup _ k⟩, vector_mounts_resolve h, supplied,
    hsupplied, hgrows, ?_⟩
  · rcases component_of_container h hk with rfl | hk
    · cases hm
    · have hname := mount_mem_volumeNames _ hk hm
      rw [← hsupplied.names, List.mem_append] at hname
      rw [hadded, hgrows.volumeClaimTemplates, List.map_append, List.mem_append, List.mem_append]
      exact hname.imp_left .inl
  · rw [hsupplied.names]
    exact volumeNames_nodup_iff _ _ r

/-- The files that the script of a container leaves in its directory, from those of the ConfigMap
and those that were there. -/
def copiedFile (data old : GoMap String) (containerName name : String) : Option String :=
  if name = "log4j.properties" then data.lookup (createComponentLog4jPropertiesName containerName)
  else if hasExtension ".xml" name then (data.lookup name).or (old.lookup name)
  else old.lookup name

/-- The first commands of a script succeed if the ConfigMap has an XML file and the log settings of
the container, and change nothing but the directory of the container. -/
theorem copyConfig_ends {containerName : String} {data : GoMap String} {content : String}
    {fs : Directories.FileSystem} (hne : configMountDir containerName ≠ configDir containerName)
    (hmount : fs (configMountDir containerName) = some data)
    (hxml : ∃ name ∈ data, hasExtension ".xml" name = true)
    (hlog : data.lookup (createComponentLog4jPropertiesName containerName) = some content) :
    Ends (copyConfig containerName) (fun fs' =>
      (∀ dir, dir ≠ configDir containerName → fs' dir = fs dir) ∧
      ∃ files, fs' (configDir containerName) = some files ∧ ∀ name, files.lookup name =
        copiedFile data ((fs (configDir containerName)).getD ∅) containerName name) fs := by
  let dir := configDir containerName
  let old := (fs dir).getD ∅
  let fs₁ := Function.update fs dir (some old)
  let fs₂ := Function.update fs₁ dir
    (some (Directories.addWhere (hasExtension ".xml") data old))
  have hmount₁ : fs₁ (configMountDir containerName) = some data := by
    rw [← hmount]
    exact Function.update_of_ne hne _ _
  have hmount₂ : fs₂ (configMountDir containerName) = some data := by
    rw [← hmount₁]
    exact Function.update_of_ne hne _ _
  refine Directories.ends_mkdir (Directories.ends_copyAll hmount₁ (Function.update_self ..) hxml
    (Directories.ends_copyAs hmount₂ hlog (Function.update_self ..)
      (Directories.ends_nil ⟨fun dir' hdir' => ?_, _, Function.update_self .., fun name => ?_⟩)))
  · rw [Function.update_of_ne hdir', Function.update_of_ne hdir', Function.update_of_ne hdir']
  · unfold copiedFile
    split
    · next hname =>
      rw [hname, AList.lookup_insert, hlog]
    · next hname =>
      rw [AList.lookup_insert_ne hname, Directories.lookup_addWhere]

/-- Config maps are mounted beside the directories that are read. -/
theorem configMountDir_ne_configDir (containerName : String) :
    configMountDir containerName ≠ configDir containerName :=
  append_ne_append (by decide) (by decide) _ _

section ConfigMap

variable {c : HdfsCluster} {fw : Framework} {o : RunOrders} {d : BuildOrders} {r : Role}
  {g : String} {overrides : Option OverridesSpec} {config : Option ConfigSpec}
  {data : GoMap String}

/-- A ConfigMap is made of the files of its role group. -/
theorem exists_buildConfig (hdata : c.configMap fw o r g overrides config d = .ok data) :
    ∃ configs, c.buildConfig fw o r g overrides = .ok configs := by
  obtain ⟨info, hinfo, h⟩ := Go.bind_eq_ok.mp hdata
  obtain ⟨files, hfiles, -⟩ := Go.bind_eq_ok.mp h
  obtain ⟨configs, hconfigs, -⟩ := Go.bind_eq_ok.mp hfiles
  exact ⟨configs, Go.bind_eq_ok.mpr ⟨info, hinfo, hconfigs⟩⟩

/-- Whatever the overrides, a ConfigMap has the files of its role. -/
theorem configMap_has_files (hdata : c.configMap fw o r g overrides config d = .ok data)
    {f : String} (hf : f ∈ configFileNames r) : ∃ content, data.lookup f = some content := by
  obtain ⟨configs, hconfigs⟩ := exists_buildConfig hdata
  have hne : f ≠ vectorConfigFileName := fun h => (configFileNames_facts r).2 (h ▸ hf)
  rw [configMap_lookup hconfigs hdata hne]
  obtain ⟨info, -, h⟩ := Go.bind_eq_ok.mp hconfigs
  obtain ⟨coreSite, hdfsSite, sslClient, sslServer, -, -, -, -, rfl⟩ := buildConfig_eq_ok.mp h
  have hnames := configFiles_names r coreSite hdfsSite sslClient sslServer
  rw [← hnames] at hf
  obtain ⟨e, he, rfl⟩ := List.mem_map.mp hf
  have hfile := GoMap.lookup_ofList_of_mem (by rw [hnames]; exact (configFileNames_facts r).1) he
  rw [hfile]
  cases ((overridesOf overrides).lookup e.1).bind fun entry => entry.lookup e.1 with
  | none => exact ⟨_, rfl⟩
  | some content => exact ⟨content, rfl⟩

/-- What is assumed of what the operator framework supplies for scripts. -/
structure ContainerInputs.Lawful (inputs : ContainerInputs) : Prop where
  parser : inputs.parser.Lawful
  bash : inputs.bash.Plain

/-- What is built for a Hadoop container. -/
theorem containerSpec_eq_ok {inputs : ContainerInputs} {b : StatefulSetBuilder}
    {order : RangeOrder} {spec : ContainerSpec} {k : ContainerComponent}
    (hinputs : inputs.Lawful) (hg : '{' ∉ b.groupName.toList)
    (hgroups : ∀ p ∈ b.instance'.nameNodePods, '{' ∉ p.group.toList) (hk : k ≠ .oidc)
    (hspec : b.containerSpec inputs order k = .ok spec) :
    spec.name = k.getContainerName ∧
      spec.volumeMounts = k.getVolumeMounts b.instance'.clusterConfig ∧
      spec.envVars = k.getCommonContainerEnv b.instance'.clusterConfig
        inputs.zookeeperConfigMapName k.serverRole ∧
      ∃ ids, k.ids b order = .ok ids ∧ spec.args = [k.script inputs.bash b.instance' ids] := by
  obtain ⟨args, hargs, hspec⟩ := Go.bind_eq_ok.mp hspec
  cases hspec
  rw [ContainerComponent.getArgs_eq order hinputs.parser hinputs.bash hg hgroups hk] at hargs
  obtain ⟨ids, hids, hargs⟩ := Go.bind_eq_ok.mp hargs
  cases hargs
  exact ⟨rfl, rfl, if_neg hk, ids, hids, congrArg ([·]) String.intercalate_singleton⟩

/-- A Hadoop container cannot be built only when the pods in its script cannot be listed. The script
is rendered completely: it has no action left that a template could have. -/
theorem containerSpec_rendered {inputs : ContainerInputs} {b : StatefulSetBuilder}
    {k : ContainerComponent} (hinputs : inputs.Lawful) (hg : '{' ∉ b.groupName.toList)
    (hgroups : ∀ p ∈ b.instance'.nameNodePods, '{' ∉ p.group.toList) (hk : k ≠ .oidc)
    (order : RangeOrder) :
    (∀ e, b.containerSpec inputs order k = .error e ↔ k.ids b order = .error e) ∧
    ∀ spec, b.containerSpec inputs order k = .ok spec → ∃ ids, k.ids b order = .ok ids ∧
      spec.args = [k.script inputs.bash b.instance' ids] ∧
      ∀ data, inputs.parser (k.script inputs.bash b.instance' ids) data =
        .ok (k.script inputs.bash b.instance' ids) := by
  constructor
  · intro e
    rw [StatefulSetBuilder.containerSpec,
      ContainerComponent.getArgs_eq order hinputs.parser hinputs.bash hg hgroups hk]
    cases hids : k.ids b order with
    | ok ids => exact iff_of_false nofun nofun
    | error e' => simp only [Go.error_bind, Except.error.injEq]
  · intro spec hspec
    obtain ⟨-, -, -, ids, hids, hargs⟩ := containerSpec_eq_ok hinputs hg hgroups hk hspec
    have hplain := ContainerComponent.script_plain hinputs.bash
      (ContainerComponent.plain_of_ids order hg hgroups hids) b.instance' k
    exact ⟨ids, hids, hargs, fun data => hinputs.parser.plain data hplain⟩

/-- The first commands of a script succeed on the files of the ConfigMap. -/
theorem copyConfig_of_configMap {k : ContainerComponent} (hk : k ∈ roleComponents r)
    (hdata : c.configMap fw o r g overrides config d = .ok data) {fs : Directories.FileSystem}
    (hfs : fs (configMountDir k.getContainerName) = some data) :
    Ends (copyConfig k.getContainerName) (fun fs' =>
      (∀ dir, dir ≠ configDir k.getContainerName → fs' dir = fs dir) ∧
      ∃ files, fs' (configDir k.getContainerName) = some files ∧ ∀ name, files.lookup name =
        copiedFile data ((fs (configDir k.getContainerName)).getD ∅) k.getContainerName name)
      fs := by
  obtain ⟨-, -, -, -, hlog⟩ := roleComponents_facts r k hk
  obtain ⟨content, hcontent⟩ := configMap_has_files hdata hlog
  obtain ⟨core, hcore⟩ := configMap_has_files hdata (f := coreSiteFileName) List.mem_cons_self
  have hmem : coreSiteFileName ∈ data := AList.lookup_isSome.mp (by rw [hcore]; rfl)
  exact copyConfig_ends (configMountDir_ne_configDir _) hfs ⟨coreSiteFileName, hmem, by decide⟩
    hcontent

/-- Every Hadoop container mounts the ConfigMap of its role group, and no other volume that the role
supplies has the name of that volume. Its script begins with commands that succeed on the mounted
files, and leave the XML files and the log settings of the container in the directory
`HADOOP_CONF_DIR`. -/
theorem start_copies_configMap {inputs : ContainerInputs} {pods : PodFramework}
    {order : RangeOrder} {settings : ConfigSpec} {t : PodTemplate} {spec : ContainerSpec}
    {k : ContainerComponent} (hinputs : inputs.Lawful) (hg : '{' ∉ g.toList)
    (hgroups : ∀ p ∈ c.nameNodePods, '{' ∉ p.group.toList) (hk : k ∈ roleComponents r)
    (ht : (c.statefulSetBuilder r g settings).componentTemplate pods order r = .ok t)
    (hspec : (c.statefulSetBuilder r g settings).containerSpec inputs order k = .ok spec)
    (hdata : c.configMap fw o r g overrides config d = .ok data) :
    (∃ v ∈ t.volumes, v.source = .configMap (c.fullName r g) ∧
      ⟨v.name, configMountDir spec.name⟩ ∈ spec.volumeMounts ∧
      ∀ v' ∈ t.volumes, v'.name = v.name → v' = v) ∧
    (∃ rest, spec.args = ["\n".intercalate ((copyConfig spec.name).map Directories.Command.text) ++
      "\n" ++ rest]) ∧
    ⟨"HADOOP_CONF_DIR", .value (configDir spec.name)⟩ ∈ spec.envVars ∧
    ∀ fs : Directories.FileSystem, fs (configMountDir spec.name) = some data →
      Ends (copyConfig spec.name) (fun fs' =>
        (∀ dir, dir ≠ configDir spec.name → fs' dir = fs dir) ∧
        ∃ files, fs' (configDir spec.name) = some files ∧ ∀ name, files.lookup name =
          copiedFile data ((fs (configDir spec.name)).getD ∅) spec.name name) fs := by
  obtain ⟨hne, hvolume, -⟩ := roleComponents_facts r k hk
  obtain ⟨hname, hmounts, henv, ids, -, hargs⟩ := containerSpec_eq_ok hinputs hg hgroups hne hspec
  obtain ⟨rest, hrest⟩ := k.script_starts inputs.bash c ids
  have hsupplied := supplies_of_componentTemplate ht
  refine ⟨⟨_, ((hsupplied.configMaps _ hvolume _).mpr rfl).1, rfl, ?_, fun v' hv' heq => ?_⟩,
    ⟨rest, ?_⟩, ?_, fun fs hfs => ?_⟩
  · rw [hmounts, hname, ContainerComponent.getVolumeMounts, if_neg hne]
    exact List.mem_append_left _ (List.mem_append_right _ List.mem_cons_self)
  · exact (hsupplied.configMaps _ hvolume v').mp ⟨hv', heq⟩
  · rw [hargs, hname]
    exact congrArg ([·]) hrest
  · rw [henv, hname]
    exact List.mem_cons_self
  · rw [hname] at hfs ⊢
    exact copyConfig_of_configMap hk hdata hfs

/-- The options of a server name the file `security.properties` in its directory. The ConfigMap has
that file, but the commands with which the script begins leave it as it was before them. What the
lines of the operator framework behind them do is not said. -/
theorem securityProperties_not_copied {inputs : ContainerInputs} {order : RangeOrder}
    {settings : ConfigSpec} {spec : ContainerSpec} {k : ContainerComponent}
    (hinputs : inputs.Lawful) (hg : '{' ∉ g.toList)
    (hgroups : ∀ p ∈ c.nameNodePods, '{' ∉ p.group.toList) (hk : k.serverRole = some r)
    (hspec : (c.statefulSetBuilder r g settings).containerSpec inputs order k = .ok spec)
    (hdata : c.configMap fw o r g overrides config d = .ok data) :
    (∃ envName options, ⟨envName, .value (" ".intercalate options)⟩ ∈ spec.envVars ∧
      "-Djava.security.properties=" ++ configDir spec.name ++ "/" ++ "security.properties" ∈
        options) ∧
    (∃ content, data.lookup "security.properties" = some content) ∧
    (∃ rest, spec.args = ["\n".intercalate ((copyConfig spec.name).map Directories.Command.text) ++
      "\n" ++ rest]) ∧
    ∀ fs : Directories.FileSystem, fs (configMountDir spec.name) = some data →
      Ends (copyConfig spec.name) (fun fs' => ∃ files, fs' (configDir spec.name) = some files ∧
        files.lookup "security.properties" =
          ((fs (configDir spec.name)).getD ∅).lookup "security.properties") fs := by
  have hmem : k ∈ roleComponents r := by
    cases k <;> cases hk <;> decide
  obtain ⟨envName, henvName⟩ : ∃ envName, k.getEnvName = some envName := by
    cases k <;> cases hk <;> exact ⟨_, rfl⟩
  obtain ⟨hne, -⟩ := roleComponents_facts r k hmem
  obtain ⟨hname, -, henv, ids, -, hargs⟩ := containerSpec_eq_ok hinputs hg hgroups hne hspec
  obtain ⟨rest, hrest⟩ := k.script_starts inputs.bash c ids
  refine ⟨⟨envName, k.jvmArgs c.clusterConfig k.serverRole, ?_, ?_⟩, ?_, ⟨rest, ?_⟩,
    fun fs hfs => ?_⟩
  · rw [henv, ContainerComponent.getCommonContainerEnv, henvName]
    exact List.mem_append_right _ (List.mem_singleton.mpr rfl)
  · rw [hname]
    exact List.mem_append_right _ (List.mem_singleton.mpr rfl)
  · exact configMap_has_files hdata (by simp [configFileNames, securityFileName])
  · rw [hargs, hname]
    exact congrArg ([·]) hrest
  · rw [hname] at hfs ⊢
    obtain ⟨fs', hrun, -, files, hfiles, hlookup⟩ := copyConfig_of_configMap hmem hdata hfs
    refine ⟨fs', hrun, files, hfiles, ?_⟩
    rw [hlookup, copiedFile, if_neg (by decide), if_neg (by decide)]

end ConfigMap

/-- Functions that pass signals on to the server. -/
def trapFunctions : String :=
  "prepare_signal_handlers()\n\x7b\n    unset term_child_pid\n    unset term_kill_needed\n" ++
  "    trap 'handle_term_signal' TERM\n\x7d\n\nhandle_term_signal()\n\x7b\n" ++
  "    if [ \"$\x7bterm_child_pid\x7d\" ]; then\n" ++
  "        kill -TERM \"$\x7bterm_child_pid\x7d\" 2>/dev/null\n" ++
  "    else\n        term_kill_needed=\"yes\"\n    fi\n\x7d\n"

/-- Commands that export the address and the ports of the listener. -/
def exportAddress : String :=
  "export POD_ADDRESS=$(cat /kubedoop/listener/default-address/address)\n" ++
  "for i in /kubedoop/listener/default-address/ports/*; do\n" ++
  "    export $(basename $i | tr a-z- A-Z_)_PORT=\"$(cat $i)\"\ndone"

/-- Texts for the scripts of servers. -/
def frameworkTexts : BashTexts where
  commonBashTrapFunctions := trapFunctions
  removeVectorShutdownFileCommand := "rm -f /kubedoop/log/_vector/shutdown"
  invokePrepareSignalHandlers := "prepare_signal_handlers"
  exportPodAddress := exportAddress
  invokeWaitForTermination := "wait_for_termination $!"
  createVectorShutdownFileCommand :=
    "mkdir -p /kubedoop/log/_vector && touch /kubedoop/log/_vector/shutdown"

/-- What containers are built with. -/
def frameworkInputs : ContainerInputs :=
  ⟨Template.render, frameworkTexts, "hdfs-znode", []⟩

/-- The functions have braces, but no action. -/
theorem trapFunctions_plain : Template.Plain trapFunctions.toList := by
  unfold trapFunctions
  iterate 4 refine Template.plain_append ?_ (Template.plain_toList rfl (by decide +kernel))
  exact Template.plain_toList rfl (by decide +kernel)

theorem exportAddress_plain : Template.Plain exportAddress.toList := by
  unfold exportAddress
  iterate 2 refine Template.plain_append ?_ (Template.plain_toList rfl (by decide +kernel))
  exact Template.plain_toList rfl (by decide +kernel)

/-- No text has an action. -/
theorem frameworkTexts_plain : frameworkTexts.Plain := by
  intro serverName hname line hline
  simp only [frameworkTexts, BashTexts.serverLines, List.mem_cons, List.not_mem_nil,
    or_false] at hline
  rcases hline with rfl | rfl | rfl | rfl | rfl | rfl | rfl
  case inl => exact trapFunctions_plain
  case inr.inr.inr.inl => exact exportAddress_plain
  case inr.inr.inr.inr.inl =>
    exact Template.plain_append
      (Template.plain_append (Template.plain_toList rfl (by decide)) hname)
      (Template.plain_toList rfl (by decide))
  all_goals exact Template.plain_toList rfl (by decide +kernel)

/-- The inputs above are as the framework's are. -/
theorem frameworkInputs_lawful : frameworkInputs.Lawful :=
  ⟨Template.render_lawful, frameworkTexts_plain⟩

theorem kerberosCluster_plain :
    ∀ p ∈ kerberosCluster.nameNodePods, '{' ∉ p.group.toList := by decide +kernel

/-- The main container and the first init container of NameNode pods are built whatever the settings
are. -/
theorem kerberosCluster_containerSpec (settings : ConfigSpec) {k : ContainerComponent}
    (hk : k = .nameNode ∨ k = .formatNameNode) :
    ∃ spec, (kerberosCluster.statefulSetBuilder .nameNode "default" settings).containerSpec
      frameworkInputs .stored k = .ok spec := by
  have hne : k ≠ .oidc := by rcases hk with rfl | rfl <;> decide
  have hargs := ContainerComponent.getArgs_eq .stored frameworkInputs_lawful.parser
    frameworkInputs_lawful.bash
    (b := kerberosCluster.statefulSetBuilder .nameNode "default" settings)
    (show '{' ∉ "default".toList by decide) kerberosCluster_plain hne
  rcases hk with rfl | rfl
  · exact ⟨_, Go.bind_eq_ok.mpr ⟨_, hargs, rfl⟩⟩
  · exact ⟨_, Go.bind_eq_ok.mpr ⟨_, hargs, rfl⟩⟩

theorem vectorDisabled_empty : VectorDisabled {} := by
  rintro _ ⟨⟩

/-- The script of the first init container lists both pods of the group, and gets a ticket. -/
theorem containerSpec_rendered_kerberosCluster :
    ∃ spec, (kerberosCluster.statefulSetBuilder .nameNode "default" {}).containerSpec
        frameworkInputs .stored .formatNameNode = .ok spec ∧
      spec.args = [ContainerComponent.script frameworkTexts kerberosCluster
        "hdfs-namenode-default-0 hdfs-namenode-default-1" .formatNameNode] := by
  obtain ⟨spec, hspec⟩ := kerberosCluster_containerSpec {} (.inr rfl)
  obtain ⟨ids, hids, hargs, -⟩ := (containerSpec_rendered frameworkInputs_lawful
    (b := kerberosCluster.statefulSetBuilder .nameNode "default" {})
    (show '{' ∉ "default".toList by decide) kerberosCluster_plain
    (show ContainerComponent.formatNameNode ≠ .oidc by decide) .stored).2 spec hspec
  have hnames : ContainerComponent.ids
      (kerberosCluster.statefulSetBuilder .nameNode "default" {}) .stored .formatNameNode =
        .ok "hdfs-namenode-default-0 hdfs-namenode-default-1" := by decide +kernel
  cases hids.symm.trans hnames
  exact ⟨spec, hspec, hargs⟩

/-- Settings with the log agent. -/
def vectorSettings : ConfigSpec where
  roleGroupConfigSpec := some { logging := some { enableVectorAgent := some true } }

/-- The framework of the examples hands the volumes of its mounts over. -/
theorem plainPods_mountsHanded : plainPods.MountsHanded := by
  intro configVolume logVolume m hm
  simp only [plainPods, List.mem_cons, List.not_mem_nil, or_false] at hm
  rcases hm with rfl | rfl | rfl
  · exact .inl rfl
  · exact .inr (.inl rfl)
  · exact .inr (.inr List.mem_cons_self)

/-- With Kerberos and the log agent, all mounts of a NameNode pod resolve. -/
theorem podTemplate_mounts_resolve_kerberosCluster :
    ∃ t, (kerberosCluster.statefulSetBuilder .nameNode "default"
        (completed .nameNode vectorSettings)).podTemplate plainPods .stored .nameNode = .ok t ∧
      t.HasVector ∧
      (∀ k : ContainerComponent,
        k.getContainerName ∈ (t.containers ++ t.initContainers).map Container.name →
          ∀ m ∈ k.getVolumeMounts kerberosCluster.clusterConfig,
            m.name ∈ t.volumes.map Volume.name ++
              t.volumeClaimTemplates.map PersistentVolumeClaim.name) ∧
      ∀ m ∈ (StatefulSetBuilder.getVectorFactory plainPods).volumeMounts,
        m.name ∈ t.volumes.map Volume.name ++
          t.volumeClaimTemplates.map PersistentVolumeClaim.name := by
  obtain ⟨t, ht⟩ := nameNodeGroupWith_componentTemplate kerberosCluster.clusterConfig
    vectorSettings
  have hpod : (kerberosCluster.statefulSetBuilder .nameNode "default"
      (completed .nameNode vectorSettings)).podTemplate plainPods .stored .nameNode =
        .ok (StatefulSetBuilder.withVector plainPods t) := Go.bind_eq_ok.mpr ⟨t, ht, rfl⟩
  have hresolve := podTemplate_mounts_resolve hpod
  exact ⟨_, hpod, StatefulSetBuilder.hasVector_withVector, fun k hk => (hresolve.1 k hk).1,
    hresolve.2.1 plainPods_mountsHanded StatefulSetBuilder.hasVector_withVector⟩

theorem start_copies_configMap_kerberosCluster :
    ∃ t spec data, (kerberosCluster.statefulSetBuilder .nameNode "default"
        (completed .nameNode {})).componentTemplate plainPods .stored .nameNode = .ok t ∧
      (kerberosCluster.statefulSetBuilder .nameNode "default"
        (completed .nameNode {})).containerSpec frameworkInputs .stored .nameNode = .ok spec ∧
      kerberosCluster.configMap plainFramework .stored .nameNode "default" none
        (some (completed .nameNode {})) ⟨.stored, .stored⟩ = .ok data ∧
      ∃ v ∈ t.volumes, v.source = .configMap (kerberosCluster.fullName .nameNode "default") ∧
        ⟨v.name, configMountDir spec.name⟩ ∈ spec.volumeMounts := by
  obtain ⟨t, ht⟩ := nameNodeGroupWith_componentTemplate kerberosCluster.clusterConfig {}
  obtain ⟨spec, hspec⟩ := kerberosCluster_containerSpec (completed .nameNode {}) (.inl rfl)
  obtain ⟨data, hdata⟩ := nameNodeGroupWith_configMap_ok kerberosCluster.clusterConfig rfl
    vectorDisabled_empty none
  obtain ⟨⟨v, hv, hsource, hmount, -⟩, -⟩ := start_copies_configMap (c := kerberosCluster)
    frameworkInputs_lawful (by decide) kerberosCluster_plain (by decide) ht hspec hdata
  exact ⟨t, spec, data, ht, hspec, hdata, v, hv, hsource, hmount⟩

theorem securityProperties_not_copied_kerberosCluster :
    ∃ spec data, (kerberosCluster.statefulSetBuilder .nameNode "default"
        (completed .nameNode {})).containerSpec frameworkInputs .stored .nameNode = .ok spec ∧
      kerberosCluster.configMap plainFramework .stored .nameNode "default" none
        (some (completed .nameNode {})) ⟨.stored, .stored⟩ = .ok data ∧
      ∀ fs : Directories.FileSystem, fs (configMountDir spec.name) = some data →
        Ends (copyConfig spec.name) (fun fs' => ∃ files, fs' (configDir spec.name) = some files ∧
          files.lookup "security.properties" =
            ((fs (configDir spec.name)).getD ∅).lookup "security.properties") fs := by
  obtain ⟨spec, hspec⟩ := kerberosCluster_containerSpec (completed .nameNode {}) (.inl rfl)
  obtain ⟨data, hdata⟩ := nameNodeGroupWith_configMap_ok kerberosCluster.clusterConfig rfl
    vectorDisabled_empty none
  exact ⟨spec, data, hspec, hdata, (securityProperties_not_copied (c := kerberosCluster)
    frameworkInputs_lawful (by decide) kerberosCluster_plain rfl hspec hdata).2.2.2⟩

end HdfsOperator
