import HdfsOperator.Core.Cache
import HdfsOperator.Correctness.NameNodeIds

/-!
# The addresses in the discovery ConfigMap

What a lookup gets depends only on the answers of the API server: the first lookup for a
listener decides its address. A pass over the pods succeeds exactly when every lookup gets
an address with the port of the pass. The failure of the first pass ends the build; the
failure of the second is dropped, and leaves a ConfigMap without RPC addresses.
-/

namespace HdfsOperator

open HdfsCluster

section Passes

variable (client : ApiClient)

/-- The listener that a pod names at a lookup. -/
def listenerOf (l : Lookup) : Option String := (client.getPod l).toOption.bind listenerOfLabels

/-- The address that a listener has at a lookup. -/
def addressOf (l : Lookup) (listenerName : String) : Option IngressAddressSpec :=
  (client.getListener l listenerName).toOption.bind List.head?

/-- A lookup among others gets an address that has its port. -/
def answered (all : List Lookup) (l : Lookup) : Bool :=
  (Cache.resolve (listenerOf client) (addressOf client) all l).any fun address =>
    (address.ports.lookup l.portName).isSome

/-- The cache after some lookups. -/
abbrev CacheHolds (done : List Lookup) (cache : GoMap IngressAddressSpec) : Prop :=
  Cache.Holds (listenerOf client) (addressOf client) done fun k => cache.lookup k

variable {client} {done : List Lookup} {cache : GoMap IngressAddressSpec} {l : Lookup}

/-- Later requests do not change what an earlier one gets. -/
theorem answered_append {a : List Lookup} (hl : l ∈ a) (b : List Lookup) :
    answered client (a ++ b) l = answered client a l := by
  rw [answered, Cache.resolve_append hl, answered]

/-- The listener of a pod is found, or the call fails. -/
theorem getListenerNameByPodName_eq (l : Lookup) :
    (∃ name, listenerOf client l = some name ∧ getListenerNameByPodName client l = .ok name) ∨
      listenerOf client l = none ∧ ∃ e, getListenerNameByPodName client l = .error e := by
  unfold listenerOf getListenerNameByPodName
  cases client.getPod l with
  | error err => exact .inr ⟨rfl, _, rfl⟩
  | ok labels =>
    cases hname : listenerOfLabels labels with
    | none => exact .inr ⟨hname, _, by simp only [hname]; rfl⟩
    | some name => exact .inl ⟨name, hname, by simp only [hname]⟩

/-- One lookup gets what the first lookup for its listener gets, or fails. -/
theorem getListenerAddress_cases (h : CacheHolds client done cache) (l : Lookup) :
    (∃ address cache', getListenerAddress client l cache = .ok (address, cache') ∧
      Cache.resolve (listenerOf client) (addressOf client) (done ++ [l]) l = some address ∧
      CacheHolds client (done ++ [l]) cache') ∨
    (∃ e, getListenerAddress client l cache = .error e) ∧
      Cache.resolve (listenerOf client) (addressOf client) (done ++ [l]) l = none := by
  unfold getListenerAddress
  rcases @getListenerNameByPodName_eq client l with ⟨name, hname, hget⟩ | ⟨hname, e, hget⟩
  · rw [hget, Go.ok_bind]
    cases hcache : cache.lookup name with
    | some address =>
      obtain ⟨hresolve, hholds⟩ := h.hit hname hcache
      exact .inl ⟨address, cache, rfl, hresolve, hholds⟩
    | none =>
      have hmiss := h.miss hname hcache
      have haddress {answer : Except String (List IngressAddressSpec)}
          (hlistener : client.getListener l name = answer) :
          addressOf client l name = answer.toOption.bind List.head? := by rw [addressOf, hlistener]
      cases hlistener : client.getListener l name with
      | error err => exact .inr ⟨⟨_, rfl⟩, hmiss.trans (haddress hlistener)⟩
      | ok addresses =>
        cases addresses with
        | nil => exact .inr ⟨⟨_, rfl⟩, hmiss.trans (haddress hlistener)⟩
        | cons address addresses =>
          exact .inl ⟨address, cache.insert name address, rfl, hmiss.trans (haddress hlistener),
            h.store hname hcache (haddress hlistener) (AList.lookup_insert cache)
              fun j hj => AList.lookup_insert_ne hj⟩
  · rw [hget]
    refine .inr ⟨⟨e, rfl⟩, ?_⟩
    rw [Cache.resolve, hname, Option.bind_none]

/-- The port is found, or the call fails. -/
theorem getPort_eq (address : IngressAddressSpec) (portName : String) :
    (∃ port, address.ports.lookup portName = some port ∧ getPort address portName = .ok port) ∨
      address.ports.lookup portName = none ∧ ∃ e, getPort address portName = .error e := by
  unfold getPort
  cases address.ports.lookup portName with
  | none => exact .inr ⟨rfl, _, rfl⟩
  | some port => exact .inl ⟨port, rfl, rfl⟩

/-- One pod of a pass: it gets a port exactly when its lookup is answered. -/
theorem lookup_cases (h : CacheHolds client done cache) (l : Lookup) :
    (∃ address cache' port, getListenerAddress client l cache = .ok (address, cache') ∧
      getPort address l.portName = .ok port ∧ CacheHolds client (done ++ [l]) cache' ∧
      answered client (done ++ [l]) l = true) ∨
    (∃ e, (getListenerAddress client l cache >>= fun r => getPort r.1 l.portName) = .error e) ∧
      answered client (done ++ [l]) l = false := by
  rcases getListenerAddress_cases h l with
    ⟨address, cache', hget, hresolve, hholds⟩ | ⟨⟨e, hget⟩, hresolve⟩
  · rcases getPort_eq address l.portName with ⟨port, hport, hgetPort⟩ | ⟨hport, e, hgetPort⟩
    · refine .inl ⟨address, cache', port, hget, hgetPort, hholds, ?_⟩
      rw [answered, hresolve, Option.any_some, hport]
      rfl
    · refine .inr ⟨⟨e, by rw [hget, Go.ok_bind, hgetPort]⟩, ?_⟩
      rw [answered, hresolve, Option.any_some, hport]
      rfl
  · refine .inr ⟨⟨e, by rw [hget, Go.error_bind]⟩, ?_⟩
    rw [answered, hresolve]
    rfl

/-- The lookups of a pass. -/
def lookups (portName : String) (podNames : List String) : List Lookup :=
  podNames.map (Lookup.mk portName)

/-- A pass succeeds exactly when all its lookups are answered, and then has a property for each
pod. -/
theorem createPortNameAddress_cases (h : CacheHolds client done cache)
    (instanceName portName : String) (podNames : List String) :
    (∃ connections cache',
      createPortNameAddress client instanceName portName podNames cache =
        .ok (connections, cache') ∧
      propertyNames connections = podNames.map (connectionName portName instanceName) ∧
      CacheHolds client (done ++ lookups portName podNames) cache' ∧
      ∀ l ∈ lookups portName podNames,
        answered client (done ++ lookups portName podNames) l = true) ∨
    (∃ e, createPortNameAddress client instanceName portName podNames cache = .error e) ∧
      ∃ l ∈ lookups portName podNames,
        answered client (done ++ lookups portName podNames) l = false := by
  induction podNames generalizing done cache with
  | nil => exact .inl ⟨[], cache, rfl, rfl, by simpa [lookups] using h, by simp [lookups]⟩
  | cons podName podNames ih =>
    have hall : done ++ lookups portName (podName :: podNames) =
        done ++ [⟨portName, podName⟩] ++ lookups portName podNames := by simp [lookups]
    have hfirst : answered client (done ++ lookups portName (podName :: podNames))
        ⟨portName, podName⟩ = answered client (done ++ [⟨portName, podName⟩])
          ⟨portName, podName⟩ := by
      rw [hall, answered_append (by simp)]
    rcases lookup_cases h ⟨portName, podName⟩ with
      ⟨address, cache₁, port, hget, hgetPort, hholds, hself⟩ | ⟨⟨e, hfails⟩, hself⟩
    · rcases ih hholds with ⟨connections, cache₂, hpass, hnames, hholds₂, hanswered⟩ |
        ⟨⟨e, hpass⟩, l, hl, hfail⟩
      · refine .inl ⟨⟨connectionName portName instanceName podName,
          address.address ++ ":" ++ toString port.toInt⟩ :: connections, cache₂, ?_,
          by rw [propertyNames_cons, hnames, List.map_cons], hall ▸ hholds₂,
          List.forall_mem_cons.mpr ⟨hfirst.trans hself, hall ▸ hanswered⟩⟩
        simp only [createPortNameAddress, hget, hgetPort, hpass, Go.ok_bind]
        rfl
      · refine .inr ⟨⟨e, ?_⟩, l, List.mem_cons_of_mem _ hl, hall ▸ hfail⟩
        simp only [createPortNameAddress, hget, hgetPort, hpass, Go.ok_bind, Go.error_bind]
    · refine .inr ⟨⟨e, ?_⟩, _, List.mem_cons_self, hfirst.trans hself⟩
      rcases Go.bind_eq_error.mp hfails with hget | ⟨⟨address, cache₁⟩, hget, hgetPort⟩
      · simp only [createPortNameAddress, hget, Go.error_bind]
      · simp only [createPortNameAddress, hget, hgetPort, Go.ok_bind, Go.error_bind]

end Passes

/-- The ports that addresses are looked up for. -/
def discoveryPorts : List String := ["http", "https", "rpc"]

/-- The start of the names of the properties for a port. -/
def connectionKey (portName : String) : String := "dfs.namenode." ++ portName ++ "-address."

/-- The name of a connection starts with the key of its port. -/
theorem connectionName_eq (portName instanceName podName : String) :
    connectionName portName instanceName podName =
      connectionKey portName ++ (instanceName ++ ("." ++ podName)) :=
  String.append_assoc.trans String.append_assoc

/-- The keys start differently. -/
private theorem connectionKey_incomparable : ∀ p ∈ discoveryPorts,
    (∀ q ∈ discoveryPorts, p ≠ q → ¬ (connectionKey p).toList <+: (connectionKey q).toList) ∧
      ¬ (connectionKey p).toList <+: "dfs.ha.namenodes.".toList ∧
      ¬ "dfs.ha.namenodes.".toList <+: (connectionKey p).toList := by decide +kernel

/-- The name of a property determines its port and its pod. -/
theorem connectionName_inj {instanceName p q podName podName' : String}
    (hp : p ∈ discoveryPorts) (hq : q ∈ discoveryPorts)
    (h : connectionName p instanceName podName = connectionName q instanceName podName') :
    p = q ∧ podName = podName' := by
  rw [connectionName_eq, connectionName_eq] at h
  have hpq : p = q := by
    by_contra hne
    exact append_ne_append ((connectionKey_incomparable p hp).1 q hq hne)
      ((connectionKey_incomparable q hq).1 p hp (Ne.symm hne)) _ _ h
  subst hpq
  exact ⟨rfl, by simpa using h⟩

/-- The names of the ids and of the addresses for some ports. -/
def discoveryNames (instanceName : String) (ports podNames : List String) : List String :=
  ("dfs.ha.namenodes." ++ instanceName) ::
    ports.flatMap fun p => podNames.map (connectionName p instanceName)

theorem propertyNames_hosts_cons (instanceName : String) (podNames : List String)
    (connections : List XmlNameValuePair) :
    propertyNames (makeDiscoveryHosts instanceName podNames :: connections) =
      ("dfs.ha.namenodes." ++ instanceName) :: propertyNames connections := rfl

/-- The name of a connection is there exactly for the ports that are written. -/
theorem mem_discoveryNames {instanceName p podName : String} {ports podNames : List String}
    (hports : ports ⊆ discoveryPorts) (hp : p ∈ discoveryPorts) (hpod : podName ∈ podNames) :
    connectionName p instanceName podName ∈ discoveryNames instanceName ports podNames ↔
      p ∈ ports := by
  have hhosts : connectionName p instanceName podName ≠ "dfs.ha.namenodes." ++ instanceName := by
    rw [connectionName_eq]
    obtain ⟨-, h₁, h₂⟩ := connectionKey_incomparable p hp
    exact append_ne_append h₁ h₂ _ _
  simp only [discoveryNames, List.mem_cons, hhosts, false_or, List.mem_flatMap, List.mem_map]
  constructor
  · rintro ⟨q, hq, podName', -, hname⟩
    rwa [(connectionName_inj hp (hports hq) hname.symm).1]
  · exact fun hmem => ⟨p, hmem, podName, hpod, rfl⟩

/-- No name is written twice. -/
theorem discoveryNames_nodup (instanceName : String) {ports podNames : List String}
    (hports : ports ⊆ discoveryPorts) (hnodup : ports.Nodup) (hpods : podNames.Nodup) :
    (discoveryNames instanceName ports podNames).Nodup := by
  rw [discoveryNames, List.nodup_cons, List.nodup_flatMap]
  refine ⟨?_, fun p hp => hpods.map_on fun a _ b _ hab =>
    (connectionName_inj (hports hp) (hports hp) hab).2, ?_⟩
  · intro hmem
    obtain ⟨p, hp, hmem⟩ := List.mem_flatMap.mp hmem
    obtain ⟨podName, -, hname⟩ := List.mem_map.mp hmem
    rw [connectionName_eq] at hname
    obtain ⟨-, h₁, h₂⟩ := connectionKey_incomparable p (hports hp)
    exact append_ne_append h₁ h₂ _ _ hname
  · refine hnodup.imp_of_mem fun {p q} hp hq hne n hn hn' => hne ?_
    obtain ⟨a, -, rfl⟩ := List.mem_map.mp hn
    obtain ⟨b, -, hname⟩ := List.mem_map.mp hn'
    exact (connectionName_inj (hports hp) (hports hq) hname.symm).1

section Complete

variable (client : ApiClient) (c : HdfsCluster) (o : RangeOrder)

/-- The pods in the ids of the discovery ConfigMap. -/
def discoveryPods : List String := getPodNames c.name.val (c.groups .nameNode) o

/-- The lookups of both passes, in their order. -/
def discoveryLookups : List Lookup :=
  lookups (webPort c.clusterConfig) (discoveryPods c o) ++ lookups "rpc" (discoveryPods c o)

/-- The lookups of every pod for a port are answered. -/
def PassAnswered (portName : String) : Prop :=
  ∀ l ∈ lookups portName (discoveryPods c o), answered client (discoveryLookups c o) l = true

instance (portName : String) : Decidable (PassAnswered client c o portName) :=
  inferInstanceAs (Decidable (∀ l ∈ lookups portName (discoveryPods c o), _))

/-- A result has one web address and one RPC address for each pod; without a result no ConfigMap
is built. -/
structure DiscoveryComplete : Prop where
  complete : ∀ ps, makeDynamicHdfsSiteXml client c o = .ok ps → ∀ podName ∈ discoveryPods c o,
    ∀ p ∈ discoveryPorts, (propertyNames ps).count (connectionName p c.name.val podName) =
      if p ∈ [webPort c.clusterConfig, "rpc"] then 1 else 0
  failed : ∀ e, makeDynamicHdfsSiteXml client c o = .error e → buildDiscovery client c o = .error e

/-- Clients get the web port and the RPC port. -/
theorem webPort_facts (clusterConfig : ClusterConfigSpec) :
    [webPort clusterConfig, "rpc"] ⊆ discoveryPorts ∧ [webPort clusterConfig, "rpc"].Nodup := by
  unfold webPort
  split <;> decide

/-- No pod is visited twice. -/
theorem discoveryPods_nodup : (discoveryPods c o).Nodup := by
  rw [discoveryPods, getPodNames_eq]
  exact podNames_nodup c o

/-- A cluster without NameNodes has no pods to visit. -/
theorem discoveryPods_of_none (h : c.nameNode = none) : discoveryPods c o = [] := by
  rw [discoveryPods, getPodNames, groups_nameNode_of_none h, GoMap.range_empty, List.flatMap_nil]

/-- The first pass decides whether there is a result, and the second which names it has. -/
theorem makeDynamicHdfsSiteXml_cases {spec : RoleSpec} (hspec : c.nameNode = some spec) :
    (¬ PassAnswered client c o (webPort c.clusterConfig) ∧
      ∃ e, makeDynamicHdfsSiteXml client c o = .error e) ∨
    PassAnswered client c o (webPort c.clusterConfig) ∧
      ∃ connections, makeDynamicHdfsSiteXml client c o =
          .ok (makeDiscoveryHosts c.name.val (discoveryPods c o) :: connections) ∧
        propertyNames (makeDiscoveryHosts c.name.val (discoveryPods c o) :: connections) =
          discoveryNames c.name.val
            (if PassAnswered client c o "rpc" then [webPort c.clusterConfig, "rpc"]
              else [webPort c.clusterConfig]) (discoveryPods c o) := by
  have hpods : getPodNames c.name.val spec.roleGroups o = discoveryPods c o := by
    rw [discoveryPods, groups_nameNode hspec]
  simp only [makeDynamicHdfsSiteXml, hspec, deref_some, Go.ok_bind, hpods, createConnections]
  have hempty : CacheHolds client [] ∅ := Cache.Holds.nil
  rcases createPortNameAddress_cases hempty c.name.val (webPort c.clusterConfig)
    (discoveryPods c o) with
    ⟨web, cache, hweb, hwebNames, hholds, hanswered⟩ | ⟨⟨e, hweb⟩, l, hl, hfail⟩
  · have hfirst : PassAnswered client c o (webPort c.clusterConfig) := fun l hl => by
      rw [discoveryLookups, answered_append hl]
      exact hanswered l hl
    simp only [hweb, Go.ok_bind]
    refine .inr ⟨hfirst, ?_⟩
    rcases createPortNameAddress_cases hholds c.name.val "rpc" (discoveryPods c o) with
      ⟨rpc, cache', hrpc, hrpcNames, -, hanswered'⟩ | ⟨⟨e, hrpc⟩, l, hl, hfail⟩
    · have hsecond : PassAnswered client c o "rpc" := hanswered'
      refine ⟨web ++ rpc, by simp only [hrpc]; rfl, ?_⟩
      rw [if_pos hsecond, propertyNames_hosts_cons, propertyNames_append, hwebNames, hrpcNames]
      simp [discoveryNames]
    · have hsecond : ¬ PassAnswered client c o "rpc" := fun h =>
        absurd (h l hl) (by rw [Bool.not_eq_true]; exact hfail)
      refine ⟨web, by simp only [hrpc]; rfl, ?_⟩
      rw [if_neg hsecond, propertyNames_hosts_cons, hwebNames]
      simp [discoveryNames]
  · refine .inl ⟨fun h => ?_, e, by simp only [hweb, Go.error_bind]⟩
    have hl' := h l hl
    rw [discoveryLookups, answered_append hl] at hl'
    exact absurd hl' (by rw [Bool.not_eq_true]; exact hfail)

/-- A fault in the connections is one of the whole build. -/
theorem buildDiscovery_of_error {e : Fault} (h : makeDynamicHdfsSiteXml client c o = .error e) :
    buildDiscovery client c o = .error e := by
  rw [buildDiscovery, makeHdfsSiteXmlData, h]
  rfl

/-- The discovery ConfigMap is complete or not built exactly when the RPC lookups of all pods are
answered as soon as the web lookups of all pods are. -/
theorem discoveryComplete_iff : DiscoveryComplete client c o ↔
    (PassAnswered client c o (webPort c.clusterConfig) → PassAnswered client c o "rpc") := by
  have hfailed := fun e => buildDiscovery_of_error client c o (e := e)
  obtain ⟨hports, hnodup⟩ := webPort_facts c.clusterConfig
  cases hspec : c.nameNode with
  | none =>
    have hnil := discoveryPods_of_none c o hspec
    refine iff_of_true ⟨fun ps _ podName hpod => ?_, hfailed⟩ fun _ l hl => ?_
    · rw [hnil] at hpod
      cases hpod
    · rw [hnil] at hl
      cases hl
  | some spec =>
    rcases makeDynamicHdfsSiteXml_cases client c o hspec with
      ⟨hweb, e, herror⟩ | ⟨hweb, connections, hok, hnames⟩
    · refine iff_of_true ⟨fun ps hps => ?_, hfailed⟩ fun h => absurd h hweb
      rw [herror] at hps
      cases hps
    · constructor
      · intro h _
        by_contra hrpc
        -- The lookup of some pod is not answered, and its address is missing.
        simp only [PassAnswered, not_forall] at hrpc
        obtain ⟨l, hl, hlf⟩ := hrpc
        obtain ⟨podName, hpod, rfl⟩ := List.mem_map.mp hl
        have hcount := h.complete _ hok podName hpod "rpc" (by decide)
        rw [hnames, if_neg fun hall => hlf (hall _ hl), if_pos (by simp),
          List.count_eq_zero_of_not_mem] at hcount
        · cases hcount
        · rw [mem_discoveryNames (fun p hp => hports (by simp_all)) (by decide) hpod]
          simpa using Ne.symm (by simpa using hnodup)
      · intro h
        refine ⟨fun ps hps podName hpod p hp => ?_, hfailed⟩
        obtain rfl := Except.ok.inj (hok.symm.trans hps)
        rw [hnames, if_pos (h hweb), (discoveryNames_nodup _ hports hnodup
          (discoveryPods_nodup c o)).count]
        exact if_congr (mem_discoveryNames hports hp hpod) rfl rfl

end Complete

/-- An API server whose answers depend only on what it is asked for. -/
def steadyClient (getPod : String → Except String (List (String × String)))
    (getListener : String → Except String (List IngressAddressSpec)) : ApiClient where
  getPod l := getPod l.podName
  getListener _ := getListener

/-- An API server that has a listener with all ports for each pod. -/
def readyClient : ApiClient :=
  steadyClient (fun podName => .ok [(listenerLabel, podName)])
    fun _ => .ok [⟨"", .ofList (discoveryPorts.map fun p => (p, 0))⟩]

/-- The client of the examples answers every request. -/
theorem readyClient_passAnswered (c : HdfsCluster) (o : RangeOrder) {p : String}
    (hp : p ∈ [webPort c.clusterConfig, "rpc"]) : PassAnswered readyClient c o p := by
  intro l hl
  have hport : l.portName ∈ discoveryPorts := by
    obtain ⟨podName, -, rfl⟩ := List.mem_map.mp hl
    exact (webPort_facts c.clusterConfig).1 hp
  have hmem : l ∈ discoveryLookups c o := by
    rcases List.mem_pair.mp hp with rfl | rfl
    · exact List.mem_append_left _ hl
    · exact List.mem_append_right _ hl
  have hlistener : listenerOf readyClient l = some l.podName := by
    have hlabel : listenerLabel.toList.isPrefixOf listenerLabel.toList = true := by decide
    have hname : listenerOfLabels [(listenerLabel, l.podName)] = some l.podName := by
      simp [listenerOfLabels, hlabel]
    exact hname
  obtain ⟨first, hfirst⟩ := Option.ne_none_iff_exists'.mp
    (Cache.firstWith_ne_none hmem hlistener)
  have haddress : addressOf readyClient first l.podName =
      some ⟨"", .ofList (discoveryPorts.map fun p => (p, 0))⟩ := rfl
  have hall : ∀ p ∈ discoveryPorts,
      ((GoMap.ofList (discoveryPorts.map fun p => (p, (0 : Int32)))).lookup p).isSome := by decide
  rw [answered, Cache.resolve, hlistener, Option.bind_some, hfirst, Option.bind_some, haddress,
    Option.any_some]
  exact hall l.portName hport

/-- An API server that no longer answers when the second pass asks for pods. -/
def failingClient : ApiClient where
  getPod l := if l.portName = "rpc" then .error "connection refused"
    else .ok [("listeners.kubedoop.dev/mnt.listener", l.podName)]
  getListener _ _ := .ok [⟨"10.0.0.1", .ofList [("http", 9870), ("rpc", 8020)]⟩]

/-- The failure of the second pass leaves a result without the RPC address of the pod. -/
theorem discovery_without_rpcAddress :
    makeDynamicHdfsSiteXml failingClient oneGroupEach .stored =
        .ok [⟨"dfs.ha.namenodes.hdfs", "hdfs-namenode-default-0"⟩,
          ⟨"dfs.namenode.http-address.hdfs.hdfs-namenode-default-0", "10.0.0.1:9870"⟩] ∧
      ¬ DiscoveryComplete failingClient oneGroupEach .stored := by
  have hok : makeDynamicHdfsSiteXml failingClient oneGroupEach .stored =
      .ok [⟨"dfs.ha.namenodes.hdfs", "hdfs-namenode-default-0"⟩,
        ⟨"dfs.namenode.http-address.hdfs.hdfs-namenode-default-0", "10.0.0.1:9870"⟩] := by rfl
  refine ⟨hok, fun h => ?_⟩
  have hcount := h.complete _ hok "hdfs-namenode-default-0" (by decide) "rpc" (by decide)
  exact absurd hcount (by decide)

end HdfsOperator
