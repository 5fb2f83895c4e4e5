import Mathlib.Data.List.Basic

/-!
# Requests answered through a cache

A sequence of requests, each of which has a key. The first request with a key fetches its
value, and all later requests with that key get the same value from a cache. What a request
gets is thus decided by the first request with its key, and `resolve` says so without a cache.
Over a store that does not change, it is enough that a cache agrees with the store.
-/

namespace HdfsOperator.Cache

variable {Q K V : Type*}

/-- Everything in the cache is in the store. -/
def Agrees (store cache : K → Option V) : Prop := ∀ k v, cache k = some v → store k = some v

/-- An empty cache agrees with every store. -/
theorem Agrees.nil (store : K → Option V) : Agrees store fun _ => none := by
  intro k v h
  cases h

/-- A cache that takes one more value from the store still agrees with it. -/
theorem Agrees.insert {store cache cache' : K → Option V} (h : Agrees store cache) {k : K} {v : V}
    (hv : store k = some v) (hself : cache' k = some v)
    (hother : ∀ j, j ≠ k → cache' j = cache j) : Agrees store cache' := by
  intro j w hw
  by_cases hj : j = k
  · subst hj
    rw [hself] at hw
    exact hv.trans hw
  · rw [hother j hj] at hw
    exact h j w hw

/-- A call that passes a cache on gives what another call gives, with a cache that satisfies `P`,
or both fail with one error. -/
inductive Simulates {E A C : Type} (P : C → Prop) : Except E (A × C) → Except E A → Prop
  | ok (a : A) (cache : C) (h : P cache) : Simulates P (.ok (a, cache)) (.ok a)
  | error (e : E) : Simulates P (.error e) (.error e)

section Simulates

variable {E A B C : Type} {P : C → Prop}

/-- Simulation carries over to what is done with the results. -/
theorem Simulates.bind {x : Except E (A × C)} {y : Except E A} (h : Simulates P x y)
    {f : A × C → Except E (B × C)} {g : A → Except E B}
    (hf : ∀ a cache, P cache → Simulates P (f (a, cache)) (g a)) :
    Simulates P (x >>= f) (y >>= g) := by
  cases h with
  | ok a cache hcache => exact hf a cache hcache
  | error e => exact .error e

/-- A call without a cache can come first on both sides. -/
theorem Simulates.bind_left (x : Except E A) {f : A → Except E (B × C)} {g : A → Except E B}
    (hf : ∀ a, Simulates P (f a) (g a)) : Simulates P (x >>= f) (x >>= g) := by
  cases x with
  | error e => exact .error e
  | ok a => exact hf a

end Simulates

variable [DecidableEq K] (key : Q → Option K) (fetch : Q → K → Option V)

/-- The first request with a given key. -/
def firstWith (requests : List Q) (k : K) : Option Q := requests.find? fun q => key q = some k

/-- What a request gets among the given requests. -/
def resolve (requests : List Q) (q : Q) : Option V :=
  (key q).bind fun k => (firstWith key requests k).bind fun first => fetch first k

/-- A cache after some requests: it has what the first request with each key fetched, and none of
the requests came to nothing. -/
structure Holds (done : List Q) (cache : K → Option V) : Prop where
  lookup : ∀ k, cache k = (firstWith key done k).bind fun first => fetch first k
  resolved : ∀ q ∈ done, resolve key fetch done q ≠ none

variable {key fetch} {done rest : List Q} {cache : K → Option V} {q : Q} {k : K}

/-- The first request for a key is found among the earlier ones first. -/
theorem firstWith_append (a b : List Q) (k : K) :
    firstWith key (a ++ b) k = (firstWith key a k).or (firstWith key b k) :=
  List.find?_append

/-- A request for a key leaves a first one. -/
theorem firstWith_ne_none (hq : q ∈ done) (hk : key q = some k) :
    firstWith key done k ≠ none := by
  rw [firstWith, ne_eq, List.find?_eq_none, not_forall]
  exact ⟨q, by simp [hq, hk]⟩

/-- Later requests do not change what a request gets. -/
theorem resolve_append (hq : q ∈ done) (rest : List Q) :
    resolve key fetch (done ++ rest) q = resolve key fetch done q := by
  cases hk : key q with
  | none => simp [resolve, hk]
  | some k =>
    obtain ⟨first, hfirst⟩ := Option.ne_none_iff_exists'.mp (firstWith_ne_none hq hk)
    simp [resolve, hk, firstWith_append, hfirst]

/-- A request alone is the first for its key. -/
theorem firstWith_singleton_self (hk : key q = some k) : firstWith key [q] k = some q := by
  simp [firstWith, hk]

/-- A request is none for another key. -/
theorem firstWith_singleton_of_ne {j : K} (hk : key q = some k) (hj : j ≠ k) :
    firstWith key [q] j = none := by
  simp [firstWith, hk, Ne.symm hj]

/-- Before the first request the cache is empty. -/
theorem Holds.nil : Holds key fetch [] fun _ => none :=
  ⟨fun _ => rfl, fun _ hq => absurd hq List.not_mem_nil⟩

/-- A key that the cache does not have was not requested before. -/
theorem Holds.firstWith_eq_none (h : Holds key fetch done cache) (hnone : cache k = none) :
    firstWith key done k = none := by
  by_contra hsome
  obtain ⟨first, hfirst⟩ := Option.ne_none_iff_exists'.mp hsome
  have hkey : key first = some k := by simpa using List.find?_some hfirst
  refine h.resolved first (List.mem_of_find?_eq_some hfirst) ?_
  rw [resolve, hkey, Option.bind_some, ← h.lookup, hnone]

/-- One more request that is answered, whether from the cache or from the store. -/
private theorem Holds.extend (h : Holds key fetch done cache) {cache' : K → Option V}
    (hlookup : ∀ j, cache' j = (firstWith key (done ++ [q]) j).bind fun first => fetch first j)
    (hq : resolve key fetch (done ++ [q]) q ≠ none) : Holds key fetch (done ++ [q]) cache' := by
  refine ⟨hlookup, fun q' hq' => ?_⟩
  rcases List.mem_append.mp hq' with hdone | hlast
  · rw [resolve_append hdone]
    exact h.resolved q' hdone
  · rw [List.mem_singleton.mp hlast]
    exact hq

/-- A request whose key is in the cache. -/
theorem Holds.hit (h : Holds key fetch done cache) (hk : key q = some k) {v : V}
    (hv : cache k = some v) :
    resolve key fetch (done ++ [q]) q = some v ∧ Holds key fetch (done ++ [q]) cache := by
  obtain ⟨first, hfirst, hfetch⟩ := Option.bind_eq_some_iff.mp ((h.lookup k).symm.trans hv)
  have hresolve : resolve key fetch (done ++ [q]) q = some v := by
    simp [resolve, hk, firstWith_append, hfirst, hfetch]
  refine ⟨hresolve, h.extend (fun j => ?_) (by simp [hresolve])⟩
  rw [firstWith_append, h.lookup]
  by_cases hj : j = k
  · simp [hj, hfirst]
  · rw [firstWith_singleton_of_ne hk hj, Option.or_none]

/-- A request whose key is not in the cache gets what it fetches itself. -/
theorem Holds.miss (h : Holds key fetch done cache) (hk : key q = some k)
    (hnone : cache k = none) : resolve key fetch (done ++ [q]) q = fetch q k := by
  simp [resolve, hk, firstWith_append, h.firstWith_eq_none hnone, firstWith_singleton_self hk]

/-- What such a request fetches is stored. -/
theorem Holds.store (h : Holds key fetch done cache) (hk : key q = some k)
    (hnone : cache k = none) {v : V} (hv : fetch q k = some v) {cache' : K → Option V}
    (hself : cache' k = some v) (hother : ∀ j, j ≠ k → cache' j = cache j) :
    Holds key fetch (done ++ [q]) cache' := by
  refine h.extend (fun j => ?_) (by simp [h.miss hk hnone, hv])
  by_cases hj : j = k
  · subst hj
    rw [hself, firstWith_append, h.firstWith_eq_none hnone, firstWith_singleton_self hk,
      Option.none_or, Option.bind_some, hv]
  · rw [hother j hj, h.lookup, firstWith_append, firstWith_singleton_of_ne hk hj, Option.or_none]

end HdfsOperator.Cache
