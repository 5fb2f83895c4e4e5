import HdfsOperator.Core.Cache
import HdfsOperator.Models.Discovery

/-!
# The cache of listener addresses

While the cluster does not change, the cache makes no difference: both passes over the pods give
the properties, or the error, that they would give if every lookup fetched its listener. The
labels of a pod are visited in an order that can differ from call to call, which does not show as
long as a pod has one listener label.
-/

namespace HdfsOperator

section Direct

variable (client : ApiClient)

/-- The first address of the listener of a pod, always fetched. -/
def getListenerAddressDirect (l : Lookup) : Go IngressAddressSpec := do
  let listenerName ← getListenerNameByPodName client l
  match client.getListener l listenerName with
  | .error _ => throw (.error "listener resource not found")
  | .ok [] => throw (.error "listener addresses not found")
  | .ok (address :: _) => return address

/-- One pass over the pods that fetches every listener. -/
def createPortNameAddressDirect (instanceName portName : String) :
    List String → Go (List XmlNameValuePair)
  | [] => .ok []
  | podName :: podNames => do
    let address ← getListenerAddressDirect client ⟨portName, podName⟩
    let port ← getPort address portName
    let name := connectionName portName instanceName podName
    let value := address.address ++ ":" ++ toString port.toInt
    let connections ← createPortNameAddressDirect instanceName portName podNames
    return ⟨name, value⟩ :: connections

/-- The addresses of the pods with every listener fetched. -/
def createConnectionsDirect (c : HdfsCluster) (podNames : List String) :
    Go (List XmlNameValuePair) := do
  let schema := webPort c.clusterConfig
  let httpConnections ← createPortNameAddressDirect client c.name.val schema podNames
  match createPortNameAddressDirect client c.name.val "rpc" podNames with
  | .ok rpcConnections => return httpConnections ++ rpcConnections
  | .error _ => return httpConnections

end Direct

/-- What the API server knows: the labels of the pods and the addresses of the listeners, each
by name, or the error for what is missing. -/
structure ClusterState where
  pods : String → Except String (GoMap String)
  listeners : String → Except String (List IngressAddressSpec)

namespace ClusterState

open Cache (Simulates)

/-- The answers from a cluster that does not change, with the order in which each call visits the
labels. -/
def client (s : ClusterState) (o : Lookup → RangeOrder) : ApiClient where
  getPod l := (s.pods l.podName).map fun labels => labels.range (o l)
  getListener _ listenerName := s.listeners listenerName

/-- Every pod has at most one label that names a listener. -/
def OneListenerLabel (s : ClusterState) : Prop :=
  ∀ podName labels, s.pods podName = .ok labels → ∀ k k' v v',
    labels.lookup k = some v → labels.lookup k' = some v' →
      listenerLabel.toList <+: k.toList → listenerLabel.toList <+: k'.toList → k = k'

/-- The first address of a listener. -/
def address (s : ClusterState) (listenerName : String) : Option IngressAddressSpec :=
  (s.listeners listenerName).toOption.bind List.head?

/-- Everything in the cache is what the cluster would answer. -/
abbrev CacheAgrees (s : ClusterState) (cache : GoMap IngressAddressSpec) : Prop :=
  Cache.Agrees s.address fun k => cache.lookup k

variable {s : ClusterState} {cache : GoMap IngressAddressSpec} {o o' : Lookup → RangeOrder}

theorem client_getPod (s : ClusterState) (o : Lookup → RangeOrder) (l : Lookup) :
    (s.client o).getPod l = (s.pods l.podName).map fun labels => labels.range (o l) := rfl

theorem client_getListener (s : ClusterState) (o : Lookup → RangeOrder) (l : Lookup)
    (listenerName : String) :
    (s.client o).getListener l listenerName = s.listeners listenerName := rfl

/-- The address of a listener is the first one in its status. -/
theorem address_eq_some {listenerName : String} {a : IngressAddressSpec} :
    s.address listenerName = some a ↔ ∃ rest, s.listeners listenerName = .ok (a :: rest) := by
  unfold address
  cases s.listeners listenerName with
  | error err => simp [Except.toOption]
  | ok addresses => simp [Except.toOption, List.head?_eq_some_iff]

/-- One label names the listener, in whatever order the labels are visited. -/
theorem getListenerNameByPodName_client (hs : s.OneListenerLabel) (o o' : Lookup → RangeOrder)
    (l : Lookup) :
    getListenerNameByPodName (s.client o) l = getListenerNameByPodName (s.client o') l := by
  cases hpod : s.pods l.podName with
  | error err =>
    simp only [getListenerNameByPodName, client_getPod, hpod, Except.map]
  | ok labels =>
    have hlabels : listenerOfLabels (labels.range (o l)) =
        listenerOfLabels (labels.range (o' l)) := by
      refine congrArg (Option.map Prod.snd) (find?_eq_of_perm (GoMap.range_perm _ _ _) ?_)
      rintro ⟨k, v⟩ hk ⟨k', v'⟩ hk' hp hp'
      rw [GoMap.mem_range] at hk hk'
      obtain rfl := hs _ _ hpod k k' v v' hk hk' (List.isPrefixOf_iff_prefix.mp hp)
        (List.isPrefixOf_iff_prefix.mp hp')
      rw [Option.some.inj (hk.symm.trans hk')]
    simp only [getListenerNameByPodName, client_getPod, hpod, Except.map, hlabels]

/-- A lookup through a cache that agrees with the cluster gets what it would fetch, and leaves a
cache that agrees with the cluster. -/
theorem getListenerAddress_simulates (hs : s.OneListenerLabel) (h : s.CacheAgrees cache)
    (o o' : Lookup → RangeOrder) (l : Lookup) :
    Simulates s.CacheAgrees (getListenerAddress (s.client o) l cache)
      (getListenerAddressDirect (s.client o') l) := by
  rw [getListenerAddress, getListenerAddressDirect, ← getListenerNameByPodName_client hs o o' l]
  apply Simulates.bind_left
  intro name
  simp only [client_getListener]
  cases hcache : cache.lookup name with
  | some a =>
    -- What is in the cache is what a fetch would find.
    obtain ⟨rest, hlistener⟩ := address_eq_some.mp (h name a hcache)
    rw [hlistener]
    exact .ok a cache h
  | none =>
    cases hlistener : s.listeners name with
    | error err => exact .error _
    | ok addresses =>
      cases addresses with
      | nil => exact .error _
      | cons a rest =>
        apply Simulates.ok
        exact h.insert (address_eq_some.mpr ⟨rest, hlistener⟩) (AList.lookup_insert cache)
          fun j hj => AList.lookup_insert_ne hj

/-- A pass through a cache that agrees with the cluster gives what it gives without a cache. -/
theorem createPortNameAddress_simulates (hs : s.OneListenerLabel) (h : s.CacheAgrees cache)
    (o o' : Lookup → RangeOrder) (instanceName portName : String) (podNames : List String) :
    Simulates s.CacheAgrees
      (createPortNameAddress (s.client o) instanceName portName podNames cache)
      (createPortNameAddressDirect (s.client o') instanceName portName podNames) := by
  induction podNames generalizing cache with
  | nil => exact .ok [] cache h
  | cons podName podNames ih =>
    refine (getListenerAddress_simulates hs h o o' ⟨portName, podName⟩).bind fun a cache₁ h₁ => ?_
    refine Simulates.bind_left (getPort a portName) fun port => ?_
    refine (ih h₁).bind fun connections cache₂ h₂ => ?_
    exact .ok _ cache₂ h₂

/-- The cache makes no difference: the properties in their order, or the error, are those of the
passes that fetch every listener. -/
theorem createConnections_eq_direct (hs : s.OneListenerLabel) (o o' : Lookup → RangeOrder)
    (c : HdfsCluster) (podNames : List String) :
    createConnections (s.client o) c podNames =
      createConnectionsDirect (s.client o') c podNames := by
  have hempty : s.CacheAgrees ∅ := Cache.Agrees.nil s.address
  have hhttp := createPortNameAddress_simulates hs hempty o o' c.name.val
    (webPort c.clusterConfig) podNames
  rw [createConnections, createConnectionsDirect]
  generalize createPortNameAddress (s.client o) c.name.val (webPort c.clusterConfig) podNames ∅ =
    cached, createPortNameAddressDirect (s.client o') c.name.val (webPort c.clusterConfig)
    podNames = direct at hhttp ⊢
  cases hhttp with
  | error e => rfl
  | ok http cache hcache =>
    -- The second pass starts with the cache of the first one.
    have hrpc := createPortNameAddress_simulates hs hcache o o' c.name.val "rpc" podNames
    simp only [Go.ok_bind]
    generalize createPortNameAddress (s.client o) c.name.val "rpc" podNames cache = cached,
      createPortNameAddressDirect (s.client o') c.name.val "rpc" podNames = direct at hrpc ⊢
    cases hrpc with
    | error e => rfl
    | ok rpc cache' hcache' => rfl

/-- Two pods behind one listener. -/
def sharedListener : ClusterState where
  pods podName :=
    if podName ∈ ["a-0", "b-0"] then .ok (.ofList [(listenerLabel ++ ".1", "shared")])
    else .error "pod not found"
  listeners listenerName :=
    if listenerName = "shared" then
      .ok [⟨"node", .ofList [("http", 9870), ("https", 9871), ("rpc", 8020)]⟩]
    else .error "listener not found"

theorem sharedListener_oneListenerLabel : sharedListener.OneListenerLabel := by
  intro podName labels hpod k k' v v' hk hk' _ _
  simp only [sharedListener] at hpod
  split at hpod
  · cases hpod
    have hmem := GoMap.mem_of_lookup_ofList hk
    have hmem' := GoMap.mem_of_lookup_ofList hk'
    rw [List.mem_singleton, Prod.mk.injEq] at hmem hmem'
    rw [hmem.1, hmem'.1]
  · cases hpod

/-- The second pod and the second pass find the listener in the cache. -/
theorem createConnections_sharedListener :
    createConnections (sharedListener.client fun _ => .stored) (.ofReplicas {} [] [] [])
        ["a-0", "b-0"] =
      createConnectionsDirect (sharedListener.client fun _ => .reversed) (.ofReplicas {} [] [] [])
        ["a-0", "b-0"] ∧
    (createConnectionsDirect (sharedListener.client fun _ => .reversed) (.ofReplicas {} [] [] [])
        ["a-0", "b-0"]).map propertyNames =
      .ok ["dfs.namenode.http-address.hdfs.a-0", "dfs.namenode.http-address.hdfs.b-0",
        "dfs.namenode.rpc-address.hdfs.a-0", "dfs.namenode.rpc-address.hdfs.b-0"] :=
  ⟨createConnections_eq_direct sharedListener_oneListenerLabel _ _ _ _, by decide⟩

end ClusterState

end HdfsOperator
