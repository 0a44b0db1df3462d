import Mathlib.Data.List.Dedup
import Mathlib.Data.List.DropRight
import Shaderwright.Proofs.Registry.SharedFunctions

/-!
The history of a function cache. A builder is run exactly where its key has not
been asked for since the functions were forgotten last, and two requests are
given one function exactly where they ask for one key and nothing was forgotten
between them (`requests_share_functions`).
-/

namespace Shaderwright

/-! ## Histories -/

/-- What can be done to a function cache. -/
inductive CacheAction where
  | request (key : String) (build : Unit → ShaderFunction)
  | clear

namespace CacheAction

def key? : CacheAction → Option String
  | .request key _ => some key
  | .clear => none

def isClear : CacheAction → Bool
  | .request .. => false
  | .clear => true

end CacheAction

namespace FunctionCache

/-- The cache after an action. -/
def perform (cache : FunctionCache) : CacheAction → FunctionCache
  | .request key build => (cache.request key build).2
  | .clear => cache.clear

/-- The cache after a history. -/
def after (cache : FunctionCache) (history : List CacheAction) :
    FunctionCache :=
  history.foldl perform cache

end FunctionCache

/-- The keys that a history asks for, as often as it does. -/
def requestedKeys (history : List CacheAction) : List String :=
  history.filterMap CacheAction.key?

/-- The keys asked for since the functions were forgotten last. -/
def keysSinceClear (history : List CacheAction) : List String :=
  requestedKeys (history.rtakeWhile fun action => !action.isClear)

/-! ## Builders with effects -/

/-- A builder that counts how often it is run. -/
def countedBuild (build : Unit → ShaderFunction) :
    StateM Nat ShaderFunction := do
  modify (· + 1)
  return build ()

namespace FunctionCache

theorem requestWith_countedBuild (cache : FunctionCache) (key : String)
    (build : Unit → ShaderFunction) (runs : Nat) :
    (cache.requestWith key (countedBuild build)).run runs =
      (cache.request key build,
        if (cache.find? key).isSome then runs else runs + 1) := by
  unfold requestWith
  cases found : cache.find? key with
  | some known =>
      rw [request_of_known found]
      rfl
  | none =>
      rw [request_of_missing found]
      rfl

/-- An action in which the builder counts its runs. -/
def performCounted (cache : FunctionCache) :
    CacheAction → StateM Nat FunctionCache
  | .request key build => do
      let (_, later) ← cache.requestWith key (countedBuild build)
      return later
  | .clear => return cache.clear

/-- A history in which the builders count their runs. -/
def afterCounted (cache : FunctionCache) (history : List CacheAction) :
    StateM Nat FunctionCache :=
  history.foldlM performCounted cache

end FunctionCache

/-! ## Keys and counters -/

section Histories

variable (history : List CacheAction) (action : CacheAction)

theorem FunctionCache.after_append (cache : FunctionCache)
    (earlier later : List CacheAction) :
    cache.after (earlier ++ later) = (cache.after earlier).after later :=
  List.foldl_append

theorem FunctionCache.after_concat (cache : FunctionCache) :
    cache.after (history ++ [action]) =
      (cache.after history).perform action := by
  rw [after_append]
  rfl

theorem requestedKeys_concat :
    requestedKeys (history ++ [action]) =
      requestedKeys history ++ action.key?.toList := by
  cases action <;> simp [requestedKeys, CacheAction.key?]

theorem keysSinceClear_concat_request (key : String)
    (build : Unit → ShaderFunction) :
    keysSinceClear (history ++ [.request key build]) =
      keysSinceClear history ++ [key] := by
  unfold keysSinceClear
  rw [List.rtakeWhile_concat_pos _ _ _ rfl, requestedKeys_concat]
  rfl

theorem keysSinceClear_concat_clear :
    keysSinceClear (history ++ [.clear]) = [] := by
  unfold keysSinceClear
  rw [List.rtakeWhile_concat_neg _ _ _ (by simp [CacheAction.isClear])]
  rfl

end Histories

namespace FunctionCache

variable {cache : FunctionCache}

/-- A request leaves the function it was given under its key. -/
theorem find?_request (cache : FunctionCache) (key : String)
    (build : Unit → ShaderFunction) :
    (cache.request key build).2.find? key =
      some (cache.request key build).1.function := by
  cases found : cache.find? key with
  | some known =>
      rw [request_of_known found]
      exact found
  | none =>
      rw [request_of_missing found, find?, lookup_concat, ← find?, found]
      simp

/-- What is under a key stays under it, whatever is requested. -/
theorem find?_request_of_some {key : String} {known : ShaderFunction}
    (found : cache.find? key = some known) (other : String)
    (build : Unit → ShaderFunction) :
    (cache.request other build).2.find? key = some known := by
  cases foundOther : cache.find? other with
  | some _ =>
      rw [request_of_known foundOther]
      exact found
  | none =>
      rw [request_of_missing foundOther, find?, lookup_concat, ← find?,
        found, Option.some_or]

/-- Only its own key is filled by a request. -/
theorem find?_request_of_ne {key other : String} (different : key ≠ other)
    (build : Unit → ShaderFunction) :
    (cache.request other build).2.find? key = cache.find? key := by
  cases foundOther : cache.find? other with
  | some _ =>
      rw [request_of_known foundOther]
      rfl
  | none =>
      rw [request_of_missing foundOther, find?, lookup_concat,
        if_neg different, Option.or_none, ← find?]

/-- The keys with a function are those asked for since the last clear. -/
theorem find?_after_isSome_iff (history : List CacheAction) (key : String) :
    ((empty.after history).find? key).isSome ↔
      key ∈ keysSinceClear history := by
  induction history using List.reverseRecOn with
  | nil =>
      simp [after, empty, find?, keysSinceClear, requestedKeys]
  | append_singleton earlier action inductionHypothesis =>
      rw [after_concat]
      cases action with
      | request other build =>
          rw [keysSinceClear_concat_request, List.mem_append,
            List.mem_singleton, ← inductionHypothesis, perform]
          by_cases same : key = other
          · simp [same, find?_request]
          · simp [same, find?_request_of_ne same]
      | clear =>
          rw [keysSinceClear_concat_clear]
          simp [perform, clear, find?]

/-- Every request is a hit or a miss. -/
theorem hits_add_misses_after (history : List CacheAction) :
    (empty.after history).hits + (empty.after history).misses =
      (requestedKeys history).length := by
  induction history using List.reverseRecOn with
  | nil =>
      rfl
  | append_singleton earlier action inductionHypothesis =>
      rw [after_concat, requestedKeys_concat, List.length_append,
        ← inductionHypothesis]
      cases action with
      | request key build =>
          rw [perform]
          cases found : (empty.after earlier).find? key with
          | some known =>
              rw [request_of_known found]
              exact Nat.add_right_comm ..
          | none =>
              rw [request_of_missing found]
              exact (Nat.add_assoc ..).symm
      | clear =>
          rfl

/-- A builder is run where a request misses. -/
theorem run_performCounted (cache : FunctionCache) (action : CacheAction) :
    (cache.performCounted action).run cache.misses =
      (cache.perform action, (cache.perform action).misses) := by
  cases action with
  | request key build =>
      have counted :=
        cache.requestWith_countedBuild key build cache.misses
      calc
        (cache.performCounted (.request key build)).run cache.misses =
            (((cache.requestWith key (countedBuild build)).run
                cache.misses).1.2,
              ((cache.requestWith key (countedBuild build)).run
                cache.misses).2) := rfl
        _ = (cache.perform (.request key build),
              (cache.perform (.request key build)).misses) := by
          rw [counted, perform]
          cases found : cache.find? key with
          | some known =>
              rw [request_of_known found]
              rfl
          | none =>
              rw [request_of_missing found]
              rfl
  | clear =>
      rfl

theorem run_afterCounted (cache : FunctionCache)
    (history : List CacheAction) :
    (cache.afterCounted history).run cache.misses =
      (cache.after history, (cache.after history).misses) := by
  induction history generalizing cache with
  | nil =>
      rfl
  | cons action rest inductionHypothesis =>
      calc
        (cache.afterCounted (action :: rest)).run cache.misses =
            (((cache.performCounted action).run cache.misses).1.afterCounted
              rest).run ((cache.performCounted action).run
                cache.misses).2 := by
          rw [afterCounted, List.foldlM_cons]
          rfl
        _ = (cache.after (action :: rest),
              (cache.after (action :: rest)).misses) := by
          rw [run_performCounted, inductionHypothesis]
          rfl

/-! ## Handles -/

/-- The functions of a cache have handles of their own, all from a bound on,
and keys of their own. -/
structure Numbered (bound : Nat) (cache : FunctionCache) : Prop where
  bound_le : bound ≤ cache.nextHandle
  entries : ∀ entry ∈ cache.functions,
    bound ≤ entry.2.handle ∧ entry.2.handle < cache.nextHandle
  handles : (cache.functions.map fun entry => entry.2.handle).Nodup
  keys : (cache.functions.map Prod.fst).Nodup

theorem mem_of_find? {key : String} {known : ShaderFunction}
    (found : cache.find? key = some known) :
    (key, known) ∈ cache.functions := by
  obtain ⟨before, after, listed, _⟩ := List.lookup_eq_some_iff.mp found
  rw [listed]
  exact List.mem_append_right _ List.mem_cons_self

theorem key_not_mem_of_find? {key : String}
    (missing : cache.find? key = none) :
    key ∉ cache.functions.map Prod.fst := by
  intro member
  obtain ⟨entry, listed, rfl⟩ := List.mem_map.mp member
  have different := List.lookup_eq_none_iff.mp missing entry listed
  simp at different

namespace Numbered

variable {bound : Nat}

theorem clear (cache : FunctionCache) :
    Numbered cache.nextHandle cache.clear :=
  ⟨Nat.le_refl _, fun _ impossible => absurd impossible List.not_mem_nil,
    List.nodup_nil, List.nodup_nil⟩

theorem mono {smaller : Nat} (numbered : Numbered bound cache)
    (le : smaller ≤ bound) : Numbered smaller cache where
  bound_le := le.trans numbered.bound_le
  entries := fun entry member =>
    ⟨le.trans (numbered.entries entry member).1,
      (numbered.entries entry member).2⟩
  handles := numbered.handles
  keys := numbered.keys

theorem request (numbered : Numbered bound cache) (key : String)
    (build : Unit → ShaderFunction) :
    Numbered bound (cache.request key build).2 := by
  cases found : cache.find? key with
  | some known =>
      rw [request_of_known found]
      exact ⟨numbered.bound_le, numbered.entries, numbered.handles,
        numbered.keys⟩
  | none =>
      rw [request_of_missing found]
      refine ⟨Nat.le_succ_of_le numbered.bound_le, ?_, ?_, ?_⟩
      · intro entry member
        rcases List.mem_append.mp member with old | new
        · obtain ⟨least, below⟩ := numbered.entries entry old
          exact ⟨least, Nat.lt_succ_of_lt below⟩
        · rw [List.mem_singleton.mp new]
          exact ⟨numbered.bound_le, Nat.lt_succ_self _⟩
      · rw [List.map_append]
        refine List.nodup_append.mpr
          ⟨numbered.handles, List.nodup_singleton _, ?_⟩
        intro handle old fresh new
        obtain ⟨entry, member, rfl⟩ := List.mem_map.mp old
        rw [List.mem_singleton.mp new]
        exact Nat.ne_of_lt (numbered.entries entry member).2
      · rw [List.map_append]
        refine List.nodup_append.mpr
          ⟨numbered.keys, List.nodup_singleton _, ?_⟩
        intro known old fresh new same
        rw [same, List.mem_singleton.mp new] at old
        exact key_not_mem_of_find? found old

theorem perform (numbered : Numbered bound cache) (action : CacheAction) :
    Numbered bound (cache.perform action) := by
  cases action with
  | request key build =>
      exact numbered.request key build
  | clear =>
      exact (Numbered.clear cache).mono numbered.bound_le

theorem after (numbered : Numbered bound cache)
    (history : List CacheAction) :
    Numbered bound (cache.after history) := by
  induction history generalizing cache with
  | nil =>
      exact numbered
  | cons action rest inductionHypothesis =>
      exact inductionHypothesis (numbered.perform action)

/-- The function that a request is given is numbered like the others. -/
theorem answer (numbered : Numbered bound cache) (key : String)
    (build : Unit → ShaderFunction) :
    bound ≤ (cache.request key build).1.function.handle ∧
      (cache.request key build).1.function.handle <
        (cache.request key build).2.nextHandle :=
  (numbered.request key build).entries _ <|
    mem_of_find? (cache.find?_request key build)

end Numbered

theorem numbered_after_empty (history : List CacheAction) :
    Numbered 0 (empty.after history) :=
  Numbered.after (Numbered.clear empty) history

/-- A function stays under its key until the functions are forgotten. -/
theorem find?_after_of_some {key : String} {known : ShaderFunction}
    (found : cache.find? key = some known) {history : List CacheAction}
    (kept : .clear ∉ history) :
    (cache.after history).find? key = some known := by
  induction history generalizing cache with
  | nil =>
      exact found
  | cons action rest inductionHypothesis =>
      rw [List.mem_cons, not_or] at kept
      cases action with
      | request other build =>
          exact inductionHypothesis (find?_request_of_some found other build)
            kept.2
      | clear =>
          exact absurd rfl kept.1

/-- Handles are not given out again. -/
theorem nextHandle_le_after (cache : FunctionCache)
    (history : List CacheAction) :
    cache.nextHandle ≤ (cache.after history).nextHandle := by
  induction history generalizing cache with
  | nil =>
      exact Nat.le_refl _
  | cons action rest inductionHypothesis =>
      refine Nat.le_trans ?_ (inductionHypothesis (cache.perform action))
      cases action with
      | request key build =>
          cases found : cache.find? key with
          | some known =>
              rw [perform, request_of_known found]
          | none =>
              rw [perform, request_of_missing found]
              exact Nat.le_succ _
      | clear =>
          exact Nat.le_refl _

/-- A request for another key is given a function of another handle. -/
theorem handle_ne_of_key_ne {bound : Nat}
    (numbered : Numbered bound cache) {key other : String}
    {known : ShaderFunction} (found : cache.find? key = some known)
    (different : other ≠ key) (build : Unit → ShaderFunction) :
    (cache.request other build).1.function.handle ≠ known.handle := by
  intro same
  have listed := mem_of_find? (find?_request_of_some found other build)
  have listedOther := mem_of_find? (cache.find?_request other build)
  have entries :=
    List.inj_on_of_nodup_map (numbered.request other build).handles
      listedOther listed same
  exact different (congrArg Prod.fst entries)

/-- After a clear no request is given a function from before it. -/
theorem handle_lt_of_clear {bound : Nat} (numbered : Numbered bound cache)
    (key key' : String) (build build' : Unit → ShaderFunction)
    {between : List CacheAction} (cleared : .clear ∈ between) :
    (cache.request key build).1.function.handle <
      (((cache.request key build).2.after between).request key'
        build').1.function.handle := by
  obtain ⟨before, rest, rfl⟩ := List.append_of_mem cleared
  have given := (numbered.answer key build).2
  generalize (cache.request key build).2 = requested at given ⊢
  have grown := requested.nextHandle_le_after before
  have fresh :=
    ((Numbered.clear (requested.after before)).after rest).answer key' build'
  rw [after_append]
  exact Nat.lt_of_lt_of_le given (grown.trans fresh.1)

/-- A cache holds one function for each key asked for since the last clear. -/
theorem size_after (history : List CacheAction) :
    (empty.after history).size = (keysSinceClear history).dedup.length := by
  have sameKeys :
      ((empty.after history).functions.map Prod.fst).Perm
        (keysSinceClear history).dedup := by
    refine (List.perm_ext_iff_of_nodup (numbered_after_empty history).keys
      (List.nodup_dedup _)).mpr fun key => ?_
    rw [List.mem_dedup, ← find?_after_isSome_iff]
    cases found : (empty.after history).find? key with
    | some known =>
        simpa using ⟨known, mem_of_find? found⟩
    | none =>
        simpa using key_not_mem_of_find? found
  rw [size, ← sameKeys.length_eq, List.length_map]

end FunctionCache

/-! ## Requests of a history -/

/-- After any history of a new cache, a request runs its builder exactly if
its key has not been asked for since the last clear, and is then given what is
built. It is given the function of an earlier request exactly if that one asked
for the same key and nothing was forgotten in between; otherwise not even the
handle is the same. Hits and misses count the requests, misses the runs of
builders, and the size the keys since the last clear; a clear changes neither
counter. -/
theorem requests_share_functions (history : List CacheAction) :
    let cache := FunctionCache.empty.after history
    (∀ key build runs,
      (cache.requestWith key (countedBuild build)).run runs =
        (cache.request key build,
          if key ∈ keysSinceClear history then runs else runs + 1)) ∧
      (∀ key build, key ∉ keysSinceClear history →
        ∃ handle, (cache.request key build).1.function =
          (build ()).withHandle handle) ∧
      (∀ earlier key build between,
        history = earlier ++ .request key build :: between →
          let first :=
            ((FunctionCache.empty.after earlier).request key
              build).1.function
          ∀ key' build',
            let later := (cache.request key' build').1.function
            (later.handle = first.handle ↔
                key' = key ∧ .clear ∉ between) ∧
              (key' = key ∧ .clear ∉ between → later = first)) ∧
      cache.hits + cache.misses = (requestedKeys history).length ∧
      (FunctionCache.empty.afterCounted history).run 0 =
        (cache, cache.misses) ∧
      cache.size = (keysSinceClear history).dedup.length ∧
      cache.clear.hits = cache.hits ∧ cache.clear.misses = cache.misses := by
  intro cache
  refine ⟨?_, ?_, ?_, FunctionCache.hits_add_misses_after history,
    FunctionCache.empty.run_afterCounted history,
    FunctionCache.size_after history, rfl, rfl⟩
  · intro key build runs
    simp only [FunctionCache.requestWith_countedBuild, cache,
      FunctionCache.find?_after_isSome_iff]
  · intro key build isNew
    rw [← FunctionCache.find?_after_isSome_iff, Option.not_isSome_iff_eq_none]
      at isNew
    exact ⟨cache.freshHandle.1,
      by rw [FunctionCache.request_of_missing isNew]⟩
  · rintro earlier key build between rfl first key' build' later
    have numbered := FunctionCache.numbered_after_empty earlier
    have continued :
        cache =
          (((FunctionCache.empty.after earlier).request key build).2.after
            between) :=
      FunctionCache.after_append ..
    have known (kept : .clear ∉ between) :
        cache.find? key = some first := by
      rw [continued]
      exact FunctionCache.find?_after_of_some
        ((FunctionCache.empty.after earlier).find?_request key build) kept
    have shared (same : key' = key ∧ .clear ∉ between) : later = first := by
      obtain ⟨rfl, kept⟩ := same
      exact congrArg (fun answer => answer.1.function)
        (FunctionCache.request_of_known (known kept) build')
    refine ⟨⟨fun sameHandle => ?_, fun same =>
      congrArg ShaderFunction.handle (shared same)⟩, shared⟩
    by_cases cleared : .clear ∈ between
    case pos =>
        have apart :=
          FunctionCache.handle_lt_of_clear numbered key key' build build'
            cleared
        rw [← continued] at apart
        exact absurd sameHandle (Nat.ne_of_gt apart)
    case neg =>
        refine ⟨?_, cleared⟩
        by_contra different
        exact FunctionCache.handle_ne_of_key_ne
          (FunctionCache.numbered_after_empty _) (known cleared) different
          build' sameHandle

/-- A history in which a key is asked for on both sides of a clear. -/
def glowHistory : List CacheAction :=
  [ .request "glow" fun () => ⟨0, "glow", some .scalar, [], []⟩,
    .clear,
    .request "glow" fun () => ⟨0, "glow", none, [], []⟩,
    .request "haze" fun () => ⟨0, "haze", none, [], []⟩ ]

theorem glowHistory_shares :
    let cache := FunctionCache.empty.after glowHistory
    let build := fun () => (⟨0, "mist", none, [], []⟩ : ShaderFunction)
    "mist" ∉ keysSinceClear glowHistory ∧
      (cache.request "glow" build).1.function.handle ≠
        (FunctionCache.empty.request "glow"
          fun () => ⟨0, "glow", some .scalar, [], []⟩).1.function.handle ∧
      (cache.request "glow" build).1.function =
        ((FunctionCache.empty.after (glowHistory.take 2)).request "glow"
          fun () => ⟨0, "glow", none, [], []⟩).1.function ∧
      (cache.hits, cache.misses, cache.size) = (0, 3, 2) ∧
      ∃ handle, (cache.request "mist" build).1.function =
        (build ()).withHandle handle := by
  intro cache build
  obtain ⟨_, built, shared, _⟩ := requests_share_functions glowHistory
  have isNew : "mist" ∉ keysSinceClear glowHistory := by decide
  have early := shared [] "glow" _ _ rfl "glow" build
  have late := shared (glowHistory.take 2) "glow" _ _ rfl "glow" build
  refine ⟨isNew, fun same => ?_, late.2 ⟨rfl, ?_⟩, by decide,
    built "mist" build isNew⟩
  · exact (early.1.mp same).2 List.mem_cons_self
  · simp

end Shaderwright
