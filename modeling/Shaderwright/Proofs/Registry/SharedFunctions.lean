import Shaderwright.Proofs.Registry.Construction

/-!
Functions shared through the cache. One construction is followed in two
workshops side by side, where the cache holds different functions; the trees
are alike, and both pairs of shaders have one outcome (`compile_run_eq`).
-/

namespace Shaderwright

/-! ## Handles of functions -/

/-- A function under another handle. -/
def ShaderFunction.withHandle (function : ShaderFunction) (handle : Nat) :
    ShaderFunction :=
  { function with handle := handle }

theorem ShaderFunction.bare_withHandle (function : ShaderFunction)
    (handle : Nat) : SameBare (function.withHandle handle) function := by
  obtain ⟨own, name, returnType, parameters, body⟩ := function
  rfl

theorem sameBare_structural : Structural SameBare := by
  intro first second same
  exact ⟨same, forall₂_of_map_bare_eq (SameBare.callees same)
    fun _ _ _ _ callees => callees⟩

/-! ## Requests -/

namespace FunctionCache

variable {cache : FunctionCache} {key : String}

theorem request_of_known {known : ShaderFunction}
    (found : cache.find? key = some known)
    (build : Unit → ShaderFunction) :
    cache.request key build =
      (⟨known, false⟩, { cache with hits := cache.hits + 1 }) := by
  rw [request, requestWith, found]
  rfl

theorem request_of_missing (missing : cache.find? key = none)
    (build : Unit → ShaderFunction) :
    cache.request key build =
      (⟨(build ()).withHandle cache.freshHandle.1, true⟩,
        { cache.freshHandle.2 with
          functions := cache.functions ++
            [(key, (build ()).withHandle cache.freshHandle.1)]
          misses := cache.misses + 1 }) := by
  rw [request, requestWith, missing]
  rfl

theorem lookup_concat (functions : List (String × ShaderFunction))
    (key other : String) (function : ShaderFunction) :
    (functions ++ [(key, function)]).lookup other =
      (functions.lookup other).or
        (if other = key then some function else none) := by
  rw [List.lookup_append, List.lookup_cons]
  by_cases same : other = key
  · simp [same]
  · simp [same, beq_eq_false_iff_ne.mpr same]

end FunctionCache

/-! ## Sound caches -/

/-- What may be asked for under each key: functions without NaN, for one key
functions that differ in handles only. -/
structure AskedAlike (asked : String → ShaderFunction → Prop) : Prop where
  naNFree : ∀ key function, asked key function → function.NaNFree
  same : ∀ key function function', asked key function →
    asked key function' → SameBare function function'

/-- The functions made so far, and a cache with some of them. A handle belongs
to one function, callees are made before their callers, and what the cache
holds under a key has been asked for under it. -/
structure FunctionCache.Sound (asked : String → ShaderFunction → Prop)
    (made : ShaderFunction → Prop) (cache : FunctionCache) : Prop where
  below : ∀ function, made function → function.handle < cache.nextHandle
  unique : ∀ first, made first → ∀ second, made second →
    first.handle = second.handle → first = second
  callees : ∀ function, made function →
    ∀ callee ∈ bodyCallees function.body, made callee
  entries : ∀ key function, cache.find? key = some function →
    made function ∧ ∃ origin, asked key origin ∧ SameBare function origin

/-- The functions made before, and one more. -/
def MadeToo (made : ShaderFunction → Prop) (function : ShaderFunction) :
    ShaderFunction → Prop :=
  fun other => made other ∨ other = function

namespace FunctionCache.Sound

variable {asked : String → ShaderFunction → Prop}
  {made : ShaderFunction → Prop} {cache : FunctionCache}

theorem empty : FunctionCache.empty.Sound asked fun _ => False := by
  constructor
  · intro function impossible
    exact impossible.elim
  · intro first impossible
    exact impossible.elim
  · intro function impossible
    exact impossible.elim
  · intro key function found
    cases found

/-- Made functions do not have the next handle. -/
theorem handle_ne (sound : cache.Sound asked made)
    {function : ShaderFunction} (old : made function) :
    function.handle ≠ cache.freshHandle.1 :=
  Nat.ne_of_lt (sound.below function old)

/-- A function with a fresh handle. -/
theorem withFresh (sound : cache.Sound asked made)
    {function : ShaderFunction}
    (callees : ∀ callee ∈ bodyCallees function.body, made callee) :
    cache.freshHandle.2.Sound asked
      (MadeToo made (function.withHandle cache.freshHandle.1)) := by
  constructor
  · intro other known
    rcases known with old | rfl
    · exact Nat.lt_succ_of_lt (sound.below other old)
    · exact Nat.lt_succ_self _
  · intro first known second known' handles
    rcases known with old | rfl <;> rcases known' with old' | rfl
    · exact sound.unique first old second old' handles
    · exact absurd handles (sound.handle_ne old)
    · exact absurd handles.symm (sound.handle_ne old')
    · rfl
  · intro other known callee called
    rcases known with old | rfl
    · exact Or.inl (sound.callees other old callee called)
    · exact Or.inl (callees callee called)
  · intro key other found
    obtain ⟨old, asks⟩ := sound.entries key other found
    exact ⟨Or.inl old, asks⟩

/-- A made function is put into the cache under a key that it has been asked
for under. -/
theorem withEntry (sound : cache.Sound asked made) {key : String}
    {function origin : ShaderFunction} (known : made function)
    (asks : asked key origin) (same : SameBare function origin)
    (misses : Nat) :
    FunctionCache.Sound asked made
      { cache with
        functions := cache.functions ++ [(key, function)]
        misses := misses } := by
  refine ⟨sound.below, sound.unique, sound.callees, ?_⟩
  intro other stored found
  rw [FunctionCache.find?, lookup_concat] at found
  cases earlier : cache.functions.lookup other with
  | some value =>
      rw [earlier] at found
      cases found
      exact sound.entries other stored earlier
  | none =>
      rw [earlier, Option.none_or] at found
      by_cases sameKey : other = key
      · rw [if_pos sameKey] at found
        cases found
        subst sameKey
        exact ⟨known, origin, asks, same⟩
      · rw [if_neg sameKey] at found
        cases found

/-- What a request gives is the function asked for, but for handles, and the
cache stays sound. -/
theorem request (sound : cache.Sound asked made)
    (alike : AskedAlike asked) {key : String}
    {function origin : ShaderFunction}
    (callees : ∀ callee ∈ bodyCallees function.body, made callee)
    (asks : asked key origin) (same : SameBare function origin) :
    ∃ later : ShaderFunction → Prop,
      (∀ other, made other → later other) ∧
        later (cache.request key fun () => function).1.function ∧
        SameBare (cache.request key fun () => function).1.function
          function ∧
        (cache.request key fun () => function).2.Sound asked later := by
  cases found : cache.find? key with
  | some known =>
      obtain ⟨old, origin', asks', sameKnown⟩ :=
        sound.entries key known found
      have origins := alike.same key origin' origin asks' asks
      rw [request_of_known found]
      exact ⟨made, fun _ known => known, old,
        sameKnown.trans (origins.trans same.symm),
        ⟨sound.below, sound.unique, sound.callees, sound.entries⟩⟩
  | none =>
      have fresh := sound.withFresh callees
      have sameFresh :=
        function.bare_withHandle cache.freshHandle.1
      rw [request_of_missing found]
      exact ⟨MadeToo made (function.withHandle cache.freshHandle.1),
        fun _ old => Or.inl old, Or.inr rfl, sameFresh,
        fresh.withEntry (Or.inr rfl) asks (sameFresh.trans same) _⟩

end FunctionCache.Sound

/-! ## Two workshops side by side -/

/-- The functions of two workshops that take the same place. Those that may
hold a NaN have been made side by side, as `own` tells. -/
structure Paired (made made' : ShaderFunction → Prop)
    (own : ShaderFunction → ShaderFunction → Prop)
    (function function' : ShaderFunction) : Prop where
  bare : SameBare function function'
  first : made function
  second : made' function'
  shared : function.NaNFree ∨ own function function'

/-- The functions made side by side before, and one more pair. -/
def MadeTogether (own : ShaderFunction → ShaderFunction → Prop)
    (function function' : ShaderFunction) :
    ShaderFunction → ShaderFunction → Prop :=
  fun other other' =>
    own other other' ∨ other = function ∧ other' = function'

/-- Two sound caches, with the functions that were made side by side. Two of
these share a handle in one workshop exactly when they do in the other one. -/
structure Tandem (asked : String → ShaderFunction → Prop)
    (made made' : ShaderFunction → Prop)
    (own : ShaderFunction → ShaderFunction → Prop)
    (cache cache' : FunctionCache) : Prop where
  first : cache.Sound asked made
  second : cache'.Sound asked made'
  own_paired : ∀ function function', own function function' →
    Paired made made' own function function'
  own_callees : ∀ function function', own function function' →
    List.Forall₂ (Paired made made' own) (bodyCallees function.body)
      (bodyCallees function'.body)
  twins : ∀ known known' function function', own known known' →
    own function function' →
      (known.handle = function.handle ↔ known'.handle = function'.handle)

namespace Paired

variable {made made' later later' : ShaderFunction → Prop}
  {own laterOwn : ShaderFunction → ShaderFunction → Prop}

theorem mono (grows : ∀ function, made function → later function)
    (grows' : ∀ function, made' function → later' function)
    (growsOwn : ∀ function function', own function function' →
      laterOwn function function')
    {function function' : ShaderFunction}
    (paired : Paired made made' own function function') :
    Paired later later' laterOwn function function' :=
  ⟨paired.bare, grows function paired.first,
    grows' function' paired.second,
    paired.shared.imp_right (growsOwn function function')⟩

/-- Functions that are paired one by one have been made. -/
theorem made_of_forall₂ {functions functions' : List ShaderFunction}
    (paired : List.Forall₂ (Paired made made' own) functions functions') :
    (∀ function ∈ functions, made function) ∧
      ∀ function ∈ functions', made' function := by
  have left := paired.imp (S := fun function function' =>
    made function ∧ Paired made made' own function function')
    fun _ _ pair => ⟨pair.first, pair⟩
  have right := paired.flip.imp (S := fun function' function =>
    made' function' ∧ Paired made made' own function function')
    fun _ _ pair => ⟨pair.second, pair⟩
  exact ⟨((List.forall₂_and_left _ _).mp left).1,
    ((List.forall₂_and_left _ _).mp right).1⟩

end Paired

namespace Tandem

variable {asked : String → ShaderFunction → Prop}
  {made made' : ShaderFunction → Prop}
  {own : ShaderFunction → ShaderFunction → Prop}
  {cache cache' : FunctionCache}

theorem structural (tandem : Tandem asked made made' own cache cache') :
    Structural (Paired made made' own) := by
  intro first second paired
  refine ⟨paired.bare, ?_⟩
  rcases paired.shared with free | together
  · refine forall₂_of_map_bare_eq paired.bare.callees ?_
    intro callee called callee' called' same
    exact ⟨same,
      tandem.first.callees first paired.first callee called,
      tandem.second.callees second paired.second callee' called',
      Or.inl (free.callee (.direct called))⟩
  · exact tandem.own_callees first second together

/-- Where no NaN is involved, a function stands for another one exactly when
they are equal: of functions that were made, only equal ones share a
handle. -/
private theorem standsFor_iff_equals (sound : cache.Sound asked made)
    {known function : ShaderFunction} (madeKnown : made known)
    (madeFunction : made function)
    (free : known.NaNFree ∨ function.NaNFree) :
    known.StandsFor function ↔ known.equals function = true := by
  constructor
  · rintro (handles | equal)
    · have same :=
        sound.unique known madeKnown function madeFunction handles
      subst same
      exact (ShaderFunction.equals_self_iff known).mpr
        (free.elim id id)
    · exact equal
  · exact Or.inr

theorem correspondence (tandem : Tandem asked made made' own cache cache') :
    Correspondence (Paired made made' own) where
  bare := Paired.bare
  callees := fun paired => (tandem.structural _ _ paired).callees
  standsFor := by
    intro known known' function function' pairedKnown paired
    have equalsIff := pairedKnown.bare.equals_iff paired.bare
    by_cases free : known.NaNFree ∨ function.NaNFree
    · have free' : known'.NaNFree ∨ function'.NaNFree :=
        free.imp pairedKnown.bare.naNFree_iff.mp
          paired.bare.naNFree_iff.mp
      rw [standsFor_iff_equals tandem.first pairedKnown.first paired.first
          free,
        standsFor_iff_equals tandem.second pairedKnown.second
          paired.second free',
        equalsIff]
    · have ownKnown :=
        pairedKnown.shared.resolve_left fun known => free (Or.inl known)
      have ownFunction :=
        paired.shared.resolve_left fun known => free (Or.inr known)
      exact or_congr
        (tandem.twins known known' function function' ownKnown ownFunction)
        equalsIff

/-- A pair of functions made in both workshops side by side. -/
private theorem paired_fresh {function function' : ShaderFunction}
    (same : SameBare function function') (handle handle' : Nat) :
    Paired (MadeToo made (function.withHandle handle))
      (MadeToo made' (function'.withHandle handle'))
      (MadeTogether own (function.withHandle handle)
        (function'.withHandle handle'))
      (function.withHandle handle) (function'.withHandle handle') := by
  refine ⟨?_, Or.inr rfl, Or.inr rfl, Or.inr (Or.inr ⟨rfl, rfl⟩)⟩
  exact (function.bare_withHandle handle).trans
    (same.trans (function'.bare_withHandle handle').symm)

private theorem paired_before {fresh fresh' : ShaderFunction}
    {function function' : ShaderFunction}
    (paired : Paired made made' own function function') :
    Paired (MadeToo made fresh) (MadeToo made' fresh')
      (MadeTogether own fresh fresh') function function' :=
  paired.mono (fun _ => Or.inl) (fun _ => Or.inl) fun _ _ => Or.inl

/-- Functions of their own that both workshops make. -/
theorem withFresh (tandem : Tandem asked made made' own cache cache')
    {function function' : ShaderFunction}
    (alike : function.Alike (Paired made made' own) function') :
    ∃ later later' laterOwn,
      (∀ first second, Paired made made' own first second →
        Paired later later' laterOwn first second) ∧
      Paired later later' laterOwn
        (function.withHandle cache.freshHandle.1)
        (function'.withHandle cache'.freshHandle.1) ∧
      Tandem asked later later' laterOwn cache.freshHandle.2
        cache'.freshHandle.2 := by
  obtain ⟨callees, callees'⟩ := Paired.made_of_forall₂ alike.callees
  refine ⟨_, _, _, fun _ _ => paired_before,
    paired_fresh alike.bare cache.freshHandle.1 cache'.freshHandle.1,
    tandem.first.withFresh callees, tandem.second.withFresh callees',
    ?_, ?_, ?_⟩
  · rintro first second (old | ⟨rfl, rfl⟩)
    · exact paired_before (tandem.own_paired first second old)
    · exact paired_fresh alike.bare _ _
  · rintro first second (old | ⟨rfl, rfl⟩)
    · exact (tandem.own_callees first second old).imp
        fun _ _ => paired_before
    · exact alike.callees.imp fun _ _ => paired_before
  · rintro known known' other other' (old | ⟨rfl, rfl⟩)
      (old' | ⟨rfl, rfl⟩)
    · exact tandem.twins known known' other other' old old'
    · have paired := tandem.own_paired known known' old
      exact iff_of_false (tandem.first.handle_ne paired.first)
        (tandem.second.handle_ne paired.second)
    · have paired := tandem.own_paired other other' old'
      exact iff_of_false
        (fun same => tandem.first.handle_ne paired.first same.symm)
        (fun same => tandem.second.handle_ne paired.second same.symm)
    · exact iff_of_true rfl rfl

/-- Functions that both workshops ask their caches for. -/
theorem request (tandem : Tandem asked made made' own cache cache')
    (askedAlike : AskedAlike asked) {key : String}
    {function function' origin : ShaderFunction}
    (alike : function.Alike (Paired made made' own) function')
    (asks : asked key origin) (same : SameBare function origin) :
    ∃ later later',
      (∀ first second, Paired made made' own first second →
        Paired later later' own first second) ∧
      Paired later later' own
        (cache.request key fun () => function).1.function
        (cache'.request key fun () => function').1.function ∧
      SameBare (cache.request key fun () => function).1.function origin ∧
      Tandem asked later later' own
        (cache.request key fun () => function).2
        (cache'.request key fun () => function').2 := by
  obtain ⟨callees, callees'⟩ := Paired.made_of_forall₂ alike.callees
  have same' : SameBare function' origin := alike.bare.symm.trans same
  obtain ⟨later, grows, known, answered, sound⟩ :=
    tandem.first.request askedAlike callees asks same
  obtain ⟨later', grows', known', answered', sound'⟩ :=
    tandem.second.request askedAlike callees' asks same'
  have pairs {first second : ShaderFunction}
      (paired : Paired made made' own first second) :
      Paired later later' own first second :=
    paired.mono grows grows' fun _ _ => id
  have original := answered.trans same
  have free := (SameBare.naNFree_iff original).mpr
    (askedAlike.naNFree key origin asks)
  refine ⟨later, later', fun _ _ => pairs, ⟨?_, known, known', Or.inl free⟩,
    original, sound, sound', ?_, ?_, tandem.twins⟩
  · exact answered.trans (alike.bare.trans answered'.symm)
  · intro first second together
    exact pairs (tandem.own_paired first second together)
  · intro first second together
    exact (tandem.own_callees first second together).imp fun _ _ => pairs

end Tandem

/-! ## Constructions side by side -/

/-- Constructions that are alike for every structural relation beyond a given
one. -/
def Construction.AlikeBeyond
    (related : ShaderFunction → ShaderFunction → Prop)
    (first second : Construction) : Prop :=
  ∀ later : ShaderFunction → ShaderFunction → Prop,
    (∀ function function', related function function' →
      later function function') →
    Structural later → first.Alike later second

section Run

variable {asked : String → ShaderFunction → Prop}

/-- Trees that two workshops have built side by side. -/
def Finished (asked : String → ShaderFunction → Prop)
    (first second : ShaderPair × Workshop) : Prop :=
  ∃ made made' own,
    Tandem asked made made' own first.2.functions second.2.functions ∧
      first.1.vertex.Alike (Paired made made' own) second.1.vertex ∧
      first.1.fragment.Alike (Paired made made' own) second.1.fragment

/-- What is alike beyond a relation goes on alike when it is given functions
of a larger one. -/
private theorem alikeBeyond_next
    {related larger : ShaderFunction → ShaderFunction → Prop}
    {first second : Construction}
    {next next' : ShaderFunction → Construction}
    (beyond : first.AlikeBeyond related second)
    (grows : ∀ function function', related function function' →
      larger function function')
    (goesOn : ∀ later, first.Alike later second →
      ∀ answer answer', later answer answer' →
        (next answer).Alike later (next' answer'))
    {answer answer' : ShaderFunction} (given : larger answer answer') :
    (next answer).AlikeBeyond larger (next' answer') := by
  intro later includes structural
  have alike :=
    beyond later (fun _ _ pair => includes _ _ (grows _ _ pair)) structural
  exact goesOn later alike answer answer' (includes _ _ given)

/-- Alike constructions build alike trees, whatever the caches hold, as long
as they are sound. `origin` is the construction that is given every function
back as it asks for it; it knows what may be asked. -/
theorem Construction.run_alike (askedAlike : AskedAlike asked)
    (construction : Construction) :
    ∀ {construction' origin : Construction}
      {made made' : ShaderFunction → Prop}
      {own : ShaderFunction → ShaderFunction → Prop}
      {workshop workshop' : Workshop},
      Tandem asked made made' own workshop.functions workshop'.functions →
      construction.AlikeBeyond (Paired made made' own) construction' →
      construction.Alike SameBare origin →
      (∀ key function, origin.Asks key function → asked key function) →
      Finished asked (construction.run workshop)
        (construction'.run workshop') := by
  induction construction with
  | finish trees =>
      intro construction' origin made made' own workshop workshop' tandem
        beyond _ _
      cases beyond _ (fun _ _ => id) tandem.structural with
      | finish vertex fragment =>
          exact ⟨made, made', own, tandem, vertex, fragment⟩
  | cached key function next inductionHypothesis =>
      intro construction' origin made made' own workshop workshop' tandem
        beyond like asks
      cases beyond _ (fun _ _ => id) tandem.structural with
      | @cached _ _ function' _ next' alike _ =>
          cases like with
          | @cached _ _ asked₀ _ next₀ same goesOn =>
              obtain ⟨later, later', grows, paired, answered, tandem⟩ :=
                tandem.request askedAlike alike (asks key asked₀ .here)
                  same.bare
              have beyondNext :=
                alikeBeyond_next beyond grows
                  (fun _ alike => by cases alike; assumption) paired
              exact @inductionHypothesis _ _ _ _ _ _
                (Building.function key (fun () => function) workshop).2
                (Building.function key (fun () => function') workshop').2
                tandem beyondNext (goesOn _ _ answered)
                fun other function below =>
                  asks other function (.afterCached below)
  | own function next inductionHypothesis =>
      intro construction' origin made made' own workshop workshop' tandem
        beyond like asks
      cases beyond _ (fun _ _ => id) tandem.structural with
      | @own _ function' _ next' alike _ =>
          cases like with
          | @own _ asked₀ _ next₀ same goesOn =>
              obtain ⟨later, later', laterOwn, grows, paired, tandem⟩ :=
                tandem.withFresh alike
              have beyondNext :=
                alikeBeyond_next beyond grows
                  (fun _ alike => by cases alike; assumption) paired
              have answered :=
                (function.bare_withHandle
                  workshop.functions.freshHandle.1).trans same.bare
              exact @inductionHypothesis _ _ _ _ _ _
                (Building.ownFunction function workshop).2
                (Building.ownFunction function' workshop').2
                tandem beyondNext (goesOn _ _ answered)
                fun other function below =>
                  asks other function (.afterOwn below)

/-- A pair of alike stages has one outcome. -/
private theorem compile_eq_of_alike
    {related : ShaderFunction → ShaderFunction → Prop}
    (corresponds : Correspondence related) {first second : ShaderPair}
    (vertex : first.vertex.Alike related second.vertex)
    (fragment : first.fragment.Alike related second.fragment)
    (dialect : Dialect) : first.compile dialect = second.compile dialect := by
  unfold ShaderPair.compile
  rw [lowerWithEvents_eq_of_correspondence corresponds vertex.bare
      vertex.callees dialect,
    lowerWithEvents_eq_of_correspondence corresponds fragment.bare
      fragment.callees dialect]

/-- What is compiled from the trees of a construction does not depend on what
a sound cache holds, and the cache stays sound. -/
theorem compile_run_eq (askedAlike : AskedAlike asked)
    {construction : Construction} (uniform : construction.Uniform)
    (asks : ∀ key function, construction.Asks key function →
      asked key function)
    {made : ShaderFunction → Prop} {workshop : Workshop}
    (sound : workshop.functions.Sound asked made) (dialect : Dialect) :
    (construction.run workshop).1.compile dialect =
        (construction.run .empty).1.compile dialect ∧
      ∃ later, (construction.run workshop).2.functions.Sound asked later := by
  have start :
      Tandem asked made (fun _ => False) (fun _ _ => False)
        workshop.functions Workshop.empty.functions :=
    ⟨sound, .empty, fun _ _ impossible => impossible.elim,
      fun _ _ impossible => impossible.elim,
      fun _ _ _ _ impossible => impossible.elim⟩
  obtain ⟨later, _, _, tandem, vertex, fragment⟩ :=
    construction.run_alike askedAlike start
      (fun related _ structural => uniform related structural)
      (uniform SameBare sameBare_structural) asks
  exact ⟨compile_eq_of_alike tandem.correspondence vertex fragment dialect,
    later, tandem.first⟩

end Run

end Shaderwright
