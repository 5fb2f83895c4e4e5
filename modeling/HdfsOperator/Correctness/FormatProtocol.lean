import HdfsOperator.Models.FormatNameNode

/-!
# At most one NameNode is formatted

The script reads the ids of its own role group at different moments, and a NameNode that
runs need not be active. So two pods can both find no active NameNode. Nothing else goes
wrong: as long as the last id that a pod without data reads is active, or no other pod has
started yet, at most one pod formats its directory and every other one copies it.
-/

namespace HdfsOperator

namespace FormatState

variable {c : HdfsCluster} {s s' : FormatState} {p q : Pod}

/-- A pod that has formatted its directory, or is about to. -/
def Committed (s : FormatState) (p : Pod) : Prop :=
  p ∈ s.formatted ∨ s.phase p = .scanned false ∧ s.version p = false

/-- A pod without data that reads the last id of its list finds it active, or no other pod has
started. -/
def LastReadSafe (c : HdfsCluster) (s : FormatState) : FormatAction → Prop
  | .read p => s.version p = false → (s.phase p).unread.length = 1 →
      (∀ q ∈ c.nameNodePods, q ≠ p → s.phase q = .pending) ∨
        s.active.map c.podName = (s.phase p).unread.head?
  | _ => True

instance (c : HdfsCluster) (s : FormatState) : (a : FormatAction) → Decidable (LastReadSafe c s a)
  | .read _ => inferInstanceAs (Decidable (_ → _ → _ ∨ _))
  | .start _ | .act _ | .serve _ | .elect _ | .demote => .isTrue trivial

/-- A pod without data that reads the last id of its list finds it active, or no other pod is
committed to formatting. -/
def ReadSafe (c : HdfsCluster) (s : FormatState) : FormatAction → Prop
  | .read p => s.version p = false → (s.phase p).unread.length = 1 →
      (∀ q, q ≠ p → ¬s.Committed q) ∨ s.active.map c.podName = (s.phase p).unread.head?
  | _ => True

/-- What holds in every reachable state, whatever pods are lost. -/
structure Inv (c : HdfsCluster) (s : FormatState) : Prop where
  /-- Only pods of the cluster have started. -/
  member : ∀ p, s.phase p ≠ .pending → p ∈ c.nameNodePods
  /-- A pod whose script has ended has data. -/
  data : ∀ p, s.phase p = .initialized ∨ s.phase p = .running → s.version p = true
  /-- A directory that was formatted has data. -/
  versioned : ∀ p ∈ s.formatted, s.version p = true
  /-- At most one pod is committed to formatting. -/
  unique : ∀ p q, s.Committed p → s.Committed q → p = q
  /-- No pod formats twice. -/
  nodup : s.formatted.Nodup
  /-- A pod that found no data has formatted or copied. -/
  acted : ∀ p ∈ s.missing, p ∈ s.formatted ∨ p ∈ s.bootstrapped

/-- The invariant holds before any pod has started. -/
theorem inv_init (c : HdfsCluster) (version : Pod → Bool) : Inv c (init version) where
  member p hp := absurd rfl hp
  data p hp := by rcases hp with hp | hp <;> cases hp
  versioned p hp := by cases hp
  unique p q hp := by rcases hp with hp | ⟨hp, -⟩ <;> cases hp
  nodup := List.nodup_nil
  acted p hp := by cases hp

@[simp] theorem setPhase_phase_self (s : FormatState) (p : Pod) (ph : Phase) :
    (s.setPhase p ph).phase p = ph := if_pos rfl

@[simp] theorem setPhase_version (s : FormatState) (p : Pod) (ph : Phase) :
    (s.setPhase p ph).version = s.version := rfl

@[simp] theorem setPhase_formatted (s : FormatState) (p : Pod) (ph : Phase) :
    (s.setPhase p ph).formatted = s.formatted := rfl

/-- A change of phase concerns one pod. -/
theorem setPhase_phase_of_ne (s : FormatState) (ph : Phase) (h : q ≠ p) :
    (s.setPhase p ph).phase q = s.phase q := if_neg h

theorem setVersion_version_self (s : FormatState) (p : Pod) :
    (s.setVersion p).version p = true := if_pos rfl

/-- Data stays. -/
theorem setVersion_version (h : s.version q = true) : (s.setVersion p).version q = true := by
  by_cases hq : q = p
  · simp [setVersion, hq]
  · simpa [setVersion, hq] using h

/-- A directory without data was not written. -/
theorem version_of_setVersion (h : (s.setVersion p).version q = false) : s.version q = false := by
  by_cases hq : q = p
  · simp [setVersion, hq] at h
  · simpa [setVersion, hq] using h

/-- The script of a pod reads at least its own id. -/
theorem formatPodNames_ne_nil (hp : p ∈ c.nameNodePods) {ids : List String}
    (h : c.formatPodNames p.group = .ok ids) : ids ≠ [] := by
  obtain ⟨e, he, hp⟩ := List.mem_flatMap.mp hp
  obtain ⟨i, hi, rfl⟩ := List.mem_map.mp hp
  have hlookup : (c.groups .nameNode).lookup e.1 = some e.2 := AList.mem_lookup_iff.mpr he
  rw [HdfsCluster.formatPodNames, hlookup, deref_some, Go.ok_bind] at h
  obtain ⟨n, hn, h⟩ := Go.bind_eq_ok.mp h
  obtain ⟨-, rfl⟩ := createPodNamesByReplicas_eq_ok.mp h
  rw [← ordinals_podCount (deref_eq_ok.mp hn)] at hi
  exact List.ne_nil_of_mem (List.mem_map_of_mem hi)

/-- A loop with ids to read starts reading. -/
theorem loop_of_ne_nil {ids : List String} (h : ids ≠ []) : loop ids = .scanning ids := by
  cases ids with
  | nil => exact absurd rfl h
  | cons id ids => rfl

/-- A change of phase commits no other pod. -/
theorem committed_setPhase_of_ne {ph : Phase} (h : q ≠ p) :
    (s.setPhase p ph).Committed q ↔ s.Committed q := by
  simp only [Committed, setPhase_phase_of_ne s ph h, setPhase_version, setPhase_formatted]

/-- A change of phase keeps the invariant if a script ends with data only, and if the change does
not commit a second pod. -/
theorem Inv.setPhase (h : Inv c s) {ph : Phase} (hp : ph ≠ .pending → p ∈ c.nameNodePods)
    (hdata : ph = .initialized ∨ ph = .running → s.version p = true)
    (hcommit : ph = .scanned false → s.version p = false → ∀ q, q ≠ p → ¬ s.Committed q) :
    Inv c (s.setPhase p ph) := by
  have hself (hc : (s.setPhase p ph).Committed p) :
      p ∈ s.formatted ∨ ph = .scanned false ∧ s.version p = false := by
    simpa only [Committed, setPhase_phase_self, setPhase_version, setPhase_formatted] using hc
  -- If the pod is committed after the change, no other pod is.
  have honly (hc : (s.setPhase p ph).Committed p) : ∀ q, q ≠ p → ¬ s.Committed q := by
    rcases hself hc with hf | ⟨hph, hv⟩
    · exact fun q hq hc' => hq (h.unique q p hc' (.inl hf))
    · exact hcommit hph hv
  refine ⟨?_, ?_, h.versioned, ?_, h.nodup, h.acted⟩
  · intro q hq
    by_cases hqp : q = p
    · subst hqp
      rw [setPhase_phase_self] at hq
      exact hp hq
    · rw [setPhase_phase_of_ne s ph hqp] at hq
      exact h.member q hq
  · intro q hq
    by_cases hqp : q = p
    · subst hqp
      rw [setPhase_phase_self] at hq
      exact hdata hq
    · rw [setPhase_phase_of_ne s ph hqp] at hq
      exact h.data q hq
  · intro a b ha hb
    by_cases hap : a = p
    · by_cases hbp : b = p
      · rw [hap, hbp]
      · subst hap
        exact absurd ((committed_setPhase_of_ne hbp).mp hb) (honly ha b hbp)
    · by_cases hbp : b = p
      · subst hbp
        exact absurd ((committed_setPhase_of_ne hap).mp ha) (honly hb a hap)
      · exact h.unique a b ((committed_setPhase_of_ne hap).mp ha)
          ((committed_setPhase_of_ne hbp).mp hb)

/-- The invariant says nothing about the active NameNode. -/
theorem Inv.setActive (h : Inv c s) (active : Option Pod) : Inv c { s with active := active } :=
  ⟨h.member, h.data, h.versioned, h.unique, h.nodup, h.acted⟩

/-- A pod can copy the active NameNode: a directory with data commits no pod. -/
theorem Inv.copy (h : Inv c s) (p : Pod) : Inv c { s.setVersion p with
    missing := p :: s.missing, bootstrapped := p :: s.bootstrapped } := by
  refine ⟨h.member, fun q hq => setVersion_version (h.data q hq),
    fun q hq => setVersion_version (h.versioned q hq), ?_, h.nodup, ?_⟩
  · intro a b ha hb
    refine h.unique a b (ha.imp_right fun hc => ?_) (hb.imp_right fun hc => ?_)
    · exact ⟨hc.1, version_of_setVersion hc.2⟩
    · exact ⟨hc.1, version_of_setVersion hc.2⟩
  · intro q hq
    rcases List.mem_cons.mp hq with rfl | hq
    · exact .inr List.mem_cons_self
    · exact (h.acted q hq).imp_right (List.mem_cons_of_mem _)

/-- A pod without data can format its directory if no other pod is committed to that. -/
theorem Inv.format (h : Inv c s) (hversion : s.version p = false)
    (honly : ∀ q, s.Committed q → q = p) : Inv c { s.setVersion p with
      missing := p :: s.missing, formatted := p :: s.formatted } := by
  have hself {q : Pod} (hq : Committed { s.setVersion p with
      missing := p :: s.missing, formatted := p :: s.formatted } q) : q = p := by
    rcases hq with hq | hq
    · rcases List.mem_cons.mp hq with rfl | hq
      · rfl
      · exact honly q (.inl hq)
    · exact honly q (.inr ⟨hq.1, version_of_setVersion hq.2⟩)
  have hnot : p ∉ s.formatted := by
    intro hf
    rw [h.versioned p hf] at hversion
    cases hversion
  refine ⟨h.member, fun q hq => setVersion_version (h.data q hq), ?_,
    fun a b ha hb => (hself ha).trans (hself hb).symm, List.nodup_cons.mpr ⟨hnot, h.nodup⟩, ?_⟩
  · intro q hq
    rcases List.mem_cons.mp hq with rfl | hq
    · exact setVersion_version_self s q
    · exact setVersion_version (h.versioned q hq)
  · intro q hq
    rcases List.mem_cons.mp hq with rfl | hq
    · exact .inl List.mem_cons_self
    · exact (h.acted q hq).imp_left (List.mem_cons_of_mem _)

/-- The end of the script keeps the invariant: only a committed pod formats. -/
theorem Inv.finish (h : Inv c s) {activeSeen : Bool} (hp : s.phase p = .scanned activeSeen) :
    Inv c (s.finish p activeSeen) := by
  have hmember : p ∈ c.nameNodePods := h.member p (by simp [hp])
  -- The directory has data before the pod moves on.
  have hended {t : FormatState} (ht : Inv c t) (hdata : t.version p = true) :
      Inv c (t.setPhase p .initialized) :=
    ht.setPhase (fun _ => hmember) (fun _ => hdata) (by simp)
  unfold FormatState.finish
  split
  · next hversion => exact hended h hversion
  next hversion =>
  have hversion : s.version p = false := by simpa using hversion
  split
  · exact hended (h.copy p) (setVersion_version_self s p)
  · -- The pod was the committed one already.
    next hseen =>
    have hcommitted : s.Committed p := .inr ⟨by simpa [hp] using hseen, hversion⟩
    exact hended (h.format hversion fun q hq => h.unique q p hq hcommitted)
      (setVersion_version_self s p)

/-- The script of a pod can start. -/
theorem Inv.start (h : Inv c s) {ids : List String} (hp : p ∈ c.nameNodePods)
    (hids : c.formatPodNames p.group = .ok ids) : Inv c (s.setPhase p (loop ids)) := by
  rw [loop_of_ne_nil (formatPodNames_ne_nil hp hids)]
  exact h.setPhase (fun _ => hp) (by simp) (by simp)

/-- A safe read of an id that is not active keeps the invariant. -/
theorem Inv.read (h : Inv c s) {id : String} {ids : List String}
    (hphase : s.phase p = .scanning (id :: ids)) (hcond : ReadSafe c s (.read p))
    (hactive : s.active.map c.podName ≠ some id) : Inv c (s.setPhase p (loop ids)) := by
  have hmember : p ∈ c.nameNodePods := h.member p (by simp [hphase])
  cases ids with
  | cons id' ids => exact h.setPhase (fun _ => hmember) (by simp [loop]) (by simp [loop])
  | nil =>
    -- The loop has ended without an active NameNode.
    refine h.setPhase (fun _ => hmember) (by simp [loop]) fun _ hversion => ?_
    exact (hcond hversion (by simp [hphase, Phase.unread])).resolve_right
      (by simpa [hphase, Phase.unread] using hactive)

/-- What an enabled action does. -/
inductive Effect (c : HdfsCluster) (s : FormatState) : FormatAction → FormatState → Prop
  | start {p : Pod} {ids : List String} (hp : p ∈ c.nameNodePods) (hphase : s.phase p = .pending)
      (hbefore : ∀ i < p.ordinal, s.phase ⟨p.group, i⟩ = .running)
      (hids : c.formatPodNames p.group = .ok ids) :
      Effect c s (.start p) (s.setPhase p (loop ids))
  /-- The id that is read is active. -/
  | found {p : Pod} {id : String} {ids : List String} (hphase : s.phase p = .scanning (id :: ids)) :
      Effect c s (.read p) (s.setPhase p (.scanned true))
  | missed {p : Pod} {id : String} {ids : List String} (hphase : s.phase p = .scanning (id :: ids))
      (hactive : s.active.map c.podName ≠ some id) :
      Effect c s (.read p) (s.setPhase p (loop ids))
  | act {p : Pod} {activeSeen : Bool} (hphase : s.phase p = .scanned activeSeen) :
      Effect c s (.act p) (s.finish p activeSeen)
  | serve {p : Pod} (hphase : s.phase p = .initialized) :
      Effect c s (.serve p) (s.setPhase p .running)
  | elect {p : Pod} (hphase : s.phase p = .running) :
      Effect c s (.elect p) { s with active := some p }
  | demote : Effect c s .demote { s with active := none }

/-- The step function does nothing else. -/
theorem effect_of_step {a : FormatAction} (h : step c s a = some s') : Effect c s a s' := by
  cases a with
  | start p =>
    simp only [step] at h
    split at h
    · next hguard =>
      split at h
      · next ids hids =>
        cases h
        exact .start hguard.1 hguard.2.1 (fun i hi => hguard.2.2 i (List.mem_range.mpr hi)) hids
      · cases h
    · cases h
  | read p =>
    simp only [step] at h
    split at h
    · next id ids hphase =>
      split at h
      · cases h
        exact .found hphase
      · next hactive =>
        cases h
        exact .missed hphase hactive
    · cases h
  | act p =>
    simp only [step] at h
    split at h
    · next activeSeen hphase =>
      cases h
      exact .act hphase
    · cases h
  | serve p =>
    simp only [step] at h
    split at h
    · next hphase =>
      cases h
      exact .serve hphase
    · cases h
  | elect p =>
    simp only [step] at h
    split at h
    · next hguard =>
      cases h
      exact .elect hguard.1
    · cases h
  | demote =>
    simp only [step] at h
    split at h
    · cases h
    · cases h
      exact .demote

/-- Every action keeps the invariant, if the last read of a pod without data is safe. -/
theorem Inv.step (h : Inv c s) {a : FormatAction} (hcond : ReadSafe c s a)
    (hstep : step c s a = some s') : Inv c s' := by
  cases effect_of_step hstep with
  | start hp _ _ hids => exact h.start hp hids
  | found hphase => exact h.setPhase (fun _ => h.member _ (by simp [hphase])) (by simp) (by simp)
  | missed hphase hactive => exact h.read hphase hcond hactive
  | act hphase => exact h.finish hphase
  | serve hphase =>
    exact h.setPhase (fun _ => h.member _ (by simp [hphase])) (fun _ => h.data _ (.inl hphase))
      (by simp)
  | elect hphase => exact h.setActive _
  | demote => exact h.setActive _

/-- At most one pod has formatted its directory, and every other pod that found no data has copied
the active NameNode. -/
theorem Inv.formatted_le_one (h : Inv c s) :
    s.formatted.length ≤ 1 ∧ ∀ p ∈ s.missing, p ∉ s.formatted → p ∈ s.bootstrapped := by
  refine ⟨?_, fun p hp hf => (h.acted p hp).resolve_left hf⟩
  match hf : s.formatted with
  | [] => simp
  | [_] => simp
  | p :: q :: rest =>
    have hpq : p = q := h.unique p q (.inl (by simp [hf])) (.inl (by simp [hf]))
    have hnodup := h.nodup
    simp [hf, hpq] at hnodup

/-- A loop has an id to read or has ended. -/
theorem loop_ne (ids : List String) :
    loop ids ≠ .pending ∧ loop ids ≠ .running ∧ loop ids ≠ .scanning [] := by
  cases ids with
  | nil => simp [loop]
  | cons id ids => simp [loop]

/-- Whatever the script does in the end, the pod has left it. -/
theorem finish_phase (s : FormatState) (p : Pod) (activeSeen : Bool) :
    (s.finish p activeSeen).phase = (s.setPhase p .initialized).phase := by
  unfold finish
  split
  · rfl
  split <;> rfl

/-- The end of a script changes no roles. -/
theorem finish_active (s : FormatState) (p : Pod) (activeSeen : Bool) :
    (s.finish p activeSeen).active = s.active := by
  unfold finish
  split
  · rfl
  split <;> rfl

/-- Only the pod whose script ends can be added to those that formatted. -/
theorem finish_formatted {activeSeen : Bool} (h : q ∈ (s.finish p activeSeen).formatted) :
    q ∈ s.formatted ∨ q = p := by
  unfold finish at h
  split at h
  · exact .inl h
  split at h
  · exact .inl h
  · exact (List.mem_cons.mp h).symm

/-- A change of the phase of one pod, as an action makes it. -/
structure Advances (s : FormatState) (a : FormatAction) (s' : FormatState) (p : Pod)
    (ph : Phase) : Prop where
  phase : s'.phase = (s.setPhase p ph).phase
  active : s'.active = s.active
  formatted : ∀ q ∈ s'.formatted, q ∈ s.formatted ∨ q = p
  notRunning : s.phase p ≠ .running
  notPending : ph ≠ .pending
  notScanning : ph ≠ .scanning []
  /-- Only opening the port makes a pod run. -/
  serves : ph = .running → a = .serve p
  /-- A pod starts after the pods before it. -/
  starts : s.phase p = .pending → ∀ i < p.ordinal, s.phase ⟨p.group, i⟩ = .running

/-- An action moves one pod forward, or it changes the active NameNode only. -/
theorem step_advances {a : FormatAction} (h : step c s a = some s') :
    (s'.phase = s.phase ∧ s'.formatted = s.formatted ∧
        ∀ p, s'.active = some p → s.phase p = .running) ∨
      ∃ p ph, Advances s a s' p ph := by
  cases effect_of_step h with
  | start hp hphase hbefore hids =>
    obtain ⟨hne, hrun, hscan⟩ := loop_ne _
    exact .inr ⟨_, _, rfl, rfl, fun _ => .inl, by simp [hphase], hne, hscan,
      fun he => absurd he hrun, fun _ => hbefore⟩
  | found hphase =>
    exact .inr ⟨_, _, rfl, rfl, fun _ => .inl, by simp [hphase], by simp, by simp, by simp,
      by simp [hphase]⟩
  | missed hphase =>
    obtain ⟨hne, hrun, hscan⟩ := loop_ne _
    exact .inr ⟨_, _, rfl, rfl, fun _ => .inl, by simp [hphase], hne, hscan,
      fun he => absurd he hrun, by simp [hphase]⟩
  | act hphase =>
    exact .inr ⟨_, _, finish_phase s _ _, finish_active s _ _, fun _ => finish_formatted,
      by simp [hphase], by simp, by simp, by simp, by simp [hphase]⟩
  | serve hphase =>
    exact .inr ⟨_, _, rfl, rfl, fun _ => .inl, by simp [hphase], by simp, by simp, fun _ => rfl,
      by simp [hphase]⟩
  | elect hphase =>
    refine .inl ⟨rfl, rfl, fun q hq => ?_⟩
    cases hq
    exact hphase
  | demote => exact .inl ⟨rfl, rfl, fun q hq => by cases hq⟩

/-- As long as no pod is lost, those that have formatted their directory have started. -/
def Started (s : FormatState) : Prop := ∀ p ∈ s.formatted, s.phase p ≠ .pending

/-- Every action keeps the pods that have started. -/
theorem Started.step (h : Started s) {a : FormatAction} (hstep : step c s a = some s') :
    Started s' := by
  intro q hq
  rcases step_advances hstep with ⟨hphase, hformatted, -⟩ | ⟨p, ph, hadv⟩
  · rw [hphase]
    exact h q (hformatted ▸ hq)
  · rw [hadv.phase]
    by_cases hqp : q = p
    · rw [hqp, setPhase_phase_self]
      exact hadv.notPending
    · rw [setPhase_phase_of_ne s ph hqp]
      exact h q ((hadv.formatted q hq).resolve_right hqp)

/-- When no other pod has started, no other pod is committed. -/
theorem Inv.readSafe (h : Inv c s) (hstarted : Started s) {a : FormatAction}
    (hcond : LastReadSafe c s a) : ReadSafe c s a := by
  cases a with
  | read p =>
    intro hversion hlast
    refine (hcond hversion hlast).imp_left fun hpending q hq hc => ?_
    have hphase : s.phase q ≠ .pending := by
      rcases hc with hf | ⟨hscanned, -⟩
      · exact hstarted q hf
      · simp [hscanned]
    exact hphase (hpending q (h.member q hphase) hq)
  | start p | act p | serve p | elect p | demote => trivial

/-- Every run whose last reads are safe formats at most one pod, and every other pod that found
no data copies the active NameNode. -/
theorem format_at_most_once {version : Pod → Bool} {actions : List FormatAction}
    (hcond : Transition.AllSteps (step c) (LastReadSafe c) (init version) actions)
    (hrun : Transition.run (step c) (init version) actions = some s) :
    s.formatted.length ≤ 1 ∧ ∀ p ∈ s.missing, p ∉ s.formatted → p ∈ s.bootstrapped := by
  have hstep (s : FormatState) (a : FormatAction) (s' : FormatState) (hs : Inv c s ∧ Started s)
      (hc : LastReadSafe c s a) (h : step c s a = some s') : Inv c s' ∧ Started s' :=
    ⟨hs.1.step (hs.1.readSafe hs.2 hc) h, hs.2.step h⟩
  have hstart : Started (init version) := fun p hp => by cases hp
  exact (Transition.run_induction hstep ⟨inv_init c version, hstart⟩ hcond hrun).1.formatted_le_one

end FormatState

/-- One NameNode group with two pods. -/
def twoNameNodes : HdfsCluster := .ofReplicas {} [("default", 2)] [("default", 1)] [("default", 1)]

/-- The first pod formats and becomes active before the second pod reads. -/
def electedFirst : List FormatAction :=
  [.start ⟨"default", 0⟩, .read ⟨"default", 0⟩, .read ⟨"default", 0⟩, .act ⟨"default", 0⟩,
    .serve ⟨"default", 0⟩, .elect ⟨"default", 0⟩, .start ⟨"default", 1⟩, .read ⟨"default", 1⟩,
    .act ⟨"default", 1⟩]

theorem format_at_most_once_electedFirst :
    ∃ s, Transition.run (FormatState.step twoNameNodes) (FormatState.init fun _ => false)
        electedFirst = some s ∧ s.missing.length = 2 ∧
      s.formatted.length ≤ 1 ∧ ∀ p ∈ s.missing, p ∉ s.formatted → p ∈ s.bootstrapped := by
  have hlog : (Transition.run (FormatState.step twoNameNodes) (FormatState.init fun _ => false)
      electedFirst).map (fun s => s.missing.length) = some 2 := by decide +kernel
  obtain ⟨s, hs, hmissing⟩ := Option.map_eq_some_iff.mp hlog
  exact ⟨s, hs, hmissing, FormatState.format_at_most_once (by decide +kernel) hs⟩

/-- The second pod reads while the first one runs as standby. -/
def standbyFirst : List FormatAction :=
  [.start ⟨"default", 0⟩, .read ⟨"default", 0⟩, .read ⟨"default", 0⟩, .act ⟨"default", 0⟩,
    .serve ⟨"default", 0⟩, .start ⟨"default", 1⟩, .read ⟨"default", 1⟩, .read ⟨"default", 1⟩,
    .act ⟨"default", 1⟩]

/-- Two pods of one stateful set both format. -/
theorem format_twice :
    (Transition.run (FormatState.step twoNameNodes) (FormatState.init fun _ => false)
      standbyFirst).map FormatState.formatted =
        some [⟨"default", 1⟩, ⟨"default", 0⟩] := by decide +kernel

end HdfsOperator
