import Shaderwright.Material.Grid
import Shaderwright.Proofs.Registry.CurrentPairs

/-!
Rebuilding all materials of a registry. The first failure ends the rebuild;
what was rebuilt in front of it stays built, everything else stays as it was,
and a later rebuild goes on behind it (`rebuildAll_resumes`).
-/

namespace Shaderwright

/-! ## The registry behind a rebuild -/

namespace MaterialRegistry

/-- What attempts that succeed make of a registry: their materials have the
pairs that were compiled, and under all other identifiers nothing changes. -/
structure RebuiltBy (registry later : MaterialRegistry)
    (done : List Attempt) : Prop where
  rebuilt : ∀ attempt ∈ done, ∃ pair,
    attempt.outcome registry.dialect = .ok pair ∧
      later.find? attempt.id = some
        { attempt.shaders with compiled? := some pair, state := .built }
  others : ∀ id, id ∉ done.map Attempt.id →
    later.find? id = registry.find? id

/-- The rebuild of a registry in which every attempt succeeds. All materials
are built for their light counts, and a further rebuild changes nothing. -/
structure Completes (registry : MaterialRegistry) : Prop where
  rebuilt : registry.RebuiltBy registry.rebuildAll.2 registry.attempts
  workshop : registry.rebuildAll.2.workshop =
    workshopBehind registry.dialect registry.workshop registry.attempts
  builtFor : ∀ id shaders,
    registry.rebuildAll.2.find? id = some shaders →
      shaders.BuiltFor registry.dialect
  again : registry.rebuildAll.2.rebuildAll = (.ok (), registry.rebuildAll.2)

/-- The rebuild of a registry that stops at an attempt. Materials in front of
it are built for their light counts; it and all behind it are as they were, and
so are those that were built before. Without its material a further rebuild
makes the attempts that were left out, and no others. -/
structure StopsAt (registry : MaterialRegistry) (done : List Attempt)
    (failed : Attempt) (left : List Attempt) : Prop where
  attempts : registry.attempts = done ++ failed :: left
  rebuilt : registry.RebuiltBy registry.rebuildAll.2 done
  fails : ∃ fault, failed.outcome registry.dialect = .error fault ∧
    registry.rebuildAll.1 = .error (.lowering fault)
  workshop : registry.rebuildAll.2.workshop =
    failed.workshopAfter registry.dialect
  below : ∀ id < failed.id, ∀ shaders,
    registry.rebuildAll.2.find? id = some shaders →
      shaders.BuiltFor registry.dialect
  onward : ∀ id, failed.id ≤ id →
    registry.rebuildAll.2.find? id = registry.find? id
  kept : ∀ id shaders, registry.find? id = some shaders →
    shaders.state = .built →
      registry.rebuildAll.2.find? id = some shaders
  resumed : (registry.rebuildAll.2.unregister failed.id).2.attempts = left
  settled : ∀ id < failed.id,
    (registry.rebuildAll.2.unregister failed.id).2.rebuildAll.2.find? id =
      registry.rebuildAll.2.find? id

variable {registry : MaterialRegistry}

theorem rebuildAll_of_rebuildEach
    {outcome : Except LoweringError Unit}
    {materials : List (Nat × MaterialShaders)} {workshop : Workshop}
    (each : rebuildEach registry.dialect registry.materials
      registry.workshop = ((outcome, materials), workshop)) :
    registry.rebuildAll =
      (outcome.mapError .lowering,
        { registry with workshop := workshop, materials := materials }) := by
  simp only [rebuildAll, each]

theorem mem_pending_iff (inOrder : registry.InOrder) {id : Nat}
    {shaders : MaterialShaders} :
    (id, shaders) ∈ registry.pending ↔
      registry.find? id = some shaders ∧ shaders.state ≠ .built := by
  rw [find?, lookup_eq_some_iff inOrder.distinct, pending, pendingIn,
    List.mem_filter]
  simp

theorem pending_ordered (inOrder : registry.InOrder) :
    (registry.pending.map Prod.fst).Pairwise (· < ·) := by
  have part : (registry.pending.map Prod.fst).Sublist
      (registry.materials.map Prod.fst) :=
    List.filter_sublist.map Prod.fst
  exact inOrder.ordered.sublist part

theorem map_entry_attempts (registry : MaterialRegistry) :
    registry.attempts.map Attempt.entry = registry.pending :=
  map_entry_attemptsAt registry.pending

theorem map_id_attempts (registry : MaterialRegistry) :
    registry.attempts.map Attempt.id = registry.pending.map Prod.fst := by
  rw [← map_entry_attempts, List.map_map]
  rfl

/-- A material that is built is not attempted. -/
theorem not_attempted_of_built (inOrder : registry.InOrder) {id : Nat}
    {shaders : MaterialShaders} (found : registry.find? id = some shaders)
    (built : shaders.state = .built) :
    id ∉ registry.attempts.map Attempt.id := by
  intro attempted
  rw [map_id_attempts] at attempted
  obtain ⟨⟨known, other⟩, member, rfl⟩ := List.mem_map.mp attempted
  obtain ⟨foundOther, missing⟩ := (mem_pending_iff inOrder).mp member
  have same : other = shaders :=
    Option.some.inj (foundOther.symm.trans found)
  rw [same] at missing
  exact missing built

end MaterialRegistry

theorem Rebuilds.rebuiltBy {registry later : MaterialRegistry}
    {workshop : Workshop} {front rebuilt back : List (Nat × MaterialShaders)}
    {attempts : List Attempt}
    (rebuilds : Rebuilds registry.dialect workshop front attempts rebuilt)
    (before : registry.materials = front ++ back)
    (behind : later.materials = rebuilt ++ back)
    (inOrder : registry.InOrder) : registry.RebuiltBy later attempts := by
  have keys :
      later.materials.map Prod.fst = registry.materials.map Prod.fst := by
    rw [behind, before, List.map_append, List.map_append, rebuilds.keys]
  have distinct : (later.materials.map Prod.fst).Nodup := by
    rw [keys]
    exact inOrder.distinct
  constructor
  · intro attempt member
    obtain ⟨pair, compiled, stored⟩ := rebuilds.exists_pair member
    have listed :
        (attempt.id,
          { attempt.shaders with compiled? := some pair, state := .built }) ∈
          later.materials := by
      rw [behind]
      exact List.mem_append_left back stored
    exact ⟨pair, compiled, (lookup_eq_some_iff distinct).mpr listed⟩
  · intro id spared
    rw [MaterialRegistry.find?, MaterialRegistry.find?, behind, before,
      List.lookup_append, List.lookup_append, rebuilds.lookup_eq spared]

namespace MaterialRegistry

variable {registry : MaterialRegistry}

theorem InOrder.rebuildAll (inOrder : registry.InOrder)
    (wellKept : registry.WellKept) : registry.rebuildAll.2.InOrder :=
  inOrder.serve wellKept .rebuildAll

theorem WellKept.rebuildAll (wellKept : registry.WellKept) :
    registry.rebuildAll.2.WellKept :=
  wellKept.serve .rebuildAll

theorem InOrder.current_find? (inOrder : registry.InOrder) {id : Nat}
    {shaders : MaterialShaders} (found : registry.find? id = some shaders) :
    shaders.Current registry.dialect :=
  inOrder.current (id, shaders) (mem_of_lookup found)

theorem completes_of_rebuilds (inOrder : registry.InOrder)
    (wellKept : registry.WellKept) {attempts : List Attempt}
    {rebuilt : List (Nat × MaterialShaders)}
    (rebuilds : Rebuilds registry.dialect registry.workshop
      registry.materials attempts rebuilt) :
    registry.rebuildAll.1 = .ok () ∧ registry.attempts = attempts ∧
      registry.Completes := by
  have whole := rebuildAll_of_rebuildEach rebuilds.rebuildEach_eq
  have attempted : registry.attempts = attempts := rebuilds.attemptsAt_eq
  have materials : registry.rebuildAll.2.materials = rebuilt := by
    rw [whole]
  have dialect : registry.rebuildAll.2.dialect = registry.dialect := by
    rw [whole]
  have allBuilt :
      ∀ entry ∈ registry.rebuildAll.2.materials, entry.2.state = .built := by
    rw [materials]
    exact rebuilds.state_built
  refine ⟨by rw [whole]; rfl, attempted, ?_, ?_, ?_, ?_⟩
  · rw [attempted]
    exact rebuilds.rebuiltBy (List.append_nil _).symm
      (materials.trans (List.append_nil _).symm) inOrder
  · rw [attempted, whole]
  · intro id shaders found
    have current := (inOrder.rebuildAll wellKept).current_find? found
    rw [dialect] at current
    exact current.builtFor (wellKept.rebuildAll.coherent_find? found)
      (allBuilt (id, shaders) (mem_of_lookup found))
  · have again : Rebuilds registry.rebuildAll.2.dialect
        registry.rebuildAll.2.workshop registry.rebuildAll.2.materials []
        registry.rebuildAll.2.materials :=
      .of_built wellKept.rebuildAll.coherent allBuilt
    rw [rebuildAll_of_rebuildEach again.rebuildEach_eq]
    rfl

/-! ## The first failure -/

/-- The first failure in the rebuild of a registry: everything in `front` is
rebuilt, and the attempt at the next material fails. -/
structure FailsAt (registry : MaterialRegistry)
    (front rebuilt back : List (Nat × MaterialShaders))
    (done : List Attempt) (failed : Attempt) (fault : LoweringError) :
    Prop where
  split : registry.materials = front ++ failed.entry :: back
  rebuilds :
    Rebuilds registry.dialect registry.workshop front done rebuilt
  coherent : failed.shaders.Coherent
  missing : failed.shaders.state ≠ .built
  workshop : failed.workshop =
    workshopBehind registry.dialect registry.workshop done
  outcome : failed.outcome registry.dialect = .error fault

/-- The attempts behind one that fails, as they are made without its
material. -/
def attemptsBehind (registry : MaterialRegistry) (failed : Attempt)
    (back : List (Nat × MaterialShaders)) : List Attempt :=
  attemptsAt registry.dialect (failed.workshopAfter registry.dialect)
    (pendingIn back)

namespace FailsAt

variable {front rebuilt back : List (Nat × MaterialShaders)}
  {done : List Attempt} {failed : Attempt} {fault : LoweringError}

theorem rebuildAll_eq
    (fails : registry.FailsAt front rebuilt back done failed fault) :
    registry.rebuildAll =
      (.error (.lowering fault),
        { registry with
          workshop := failed.workshopAfter registry.dialect
          materials := rebuilt ++ failed.entry :: back }) := by
  obtain ⟨split, rebuilds, coherent, missing, workshop, outcome⟩ := fails
  obtain ⟨id, shaders, moment⟩ := failed
  subst workshop
  have stopped := rebuildEach_cons_of_error coherent missing outcome back
  have each := rebuilds.rebuildEach_append ((id, shaders) :: back)
  rw [stopped] at each
  have whole := split ▸ each
  exact rebuildAll_of_rebuildEach whole

theorem attempts_eq
    (fails : registry.FailsAt front rebuilt back done failed fault) :
    registry.attempts =
      done ++ failed :: registry.attemptsBehind failed back := by
  obtain ⟨split, rebuilds, coherent, missing, workshop, outcome⟩ := fails
  obtain ⟨id, shaders, moment⟩ := failed
  subst workshop
  have made := rebuilds.attemptsAt_append ((id, shaders) :: back)
  rw [pendingIn_cons_of_missing missing, attemptsAt] at made
  rw [attempts, pending, split]
  exact made

theorem rebuiltBy
    (fails : registry.FailsAt front rebuilt back done failed fault)
    (inOrder : registry.InOrder) :
    registry.RebuiltBy registry.rebuildAll.2 done := by
  apply fails.rebuilds.rebuiltBy fails.split _ inOrder
  rw [fails.rebuildAll_eq]

/-- Identifiers in front of the failure are smaller, and those behind it are
larger. -/
theorem ids_front_lt
    (fails : registry.FailsAt front rebuilt back done failed fault)
    (inOrder : registry.InOrder) :
    (∀ id ∈ front.map Prod.fst, id < failed.id) ∧
      ∀ id ∈ back.map Prod.fst, failed.id < id := by
  have ordered := inOrder.ordered
  rw [fails.split, List.map_append, List.map_cons,
    List.pairwise_append] at ordered
  obtain ⟨_, fromFailed, across⟩ := ordered
  constructor
  · intro id listed
    exact across id listed failed.id List.mem_cons_self
  · intro id listed
    exact (List.pairwise_cons.mp fromFailed).1 id listed

theorem ids_done_lt
    (fails : registry.FailsAt front rebuilt back done failed fault)
    (inOrder : registry.InOrder) :
    ∀ id ∈ done.map Attempt.id, id < failed.id := by
  intro id listed
  obtain ⟨attempt, member, rfl⟩ := List.mem_map.mp listed
  obtain ⟨pair, _, stored⟩ := fails.rebuilds.exists_pair member
  have inRebuilt : attempt.id ∈ rebuilt.map Prod.fst :=
    List.mem_map.mpr ⟨_, stored, rfl⟩
  rw [fails.rebuilds.keys] at inRebuilt
  exact (fails.ids_front_lt inOrder).1 attempt.id inRebuilt

/-- Without the material that fails, the attempts behind it are left. -/
theorem attempts_unregister
    (fails : registry.FailsAt front rebuilt back done failed fault)
    (inOrder : registry.InOrder) :
    (registry.rebuildAll.2.unregister failed.id).2.attempts =
      registry.attemptsBehind failed back := by
  obtain ⟨below, above⟩ := fails.ids_front_lt inOrder
  rw [← fails.rebuilds.keys] at below
  have keptFront :
      (rebuilt.filter fun entry => entry.1 != failed.id) = rebuilt := by
    apply List.filter_eq_self.mpr
    intro entry member
    have lt := below entry.1 (List.mem_map_of_mem member)
    simpa using Nat.ne_of_lt lt
  have keptBack :
      (back.filter fun entry => entry.1 != failed.id) = back := by
    apply List.filter_eq_self.mpr
    intro entry member
    have lt := above entry.1 (List.mem_map_of_mem member)
    simpa using Nat.ne_of_gt lt
  have removed :
      ((rebuilt ++ failed.entry :: back).filter fun entry =>
        entry.1 != failed.id) = rebuilt ++ back := by
    rw [List.filter_append, List.filter_cons_of_neg (by simp [Attempt.entry]),
      keptFront, keptBack]
  have settled : pendingIn rebuilt = [] :=
    pendingIn_eq_nil fails.rebuilds.state_built
  rw [fails.rebuildAll_eq]
  simp only [attempts, pending, unregister, attemptsBehind]
  rw [removed, pendingIn_append, settled, List.nil_append]

end FailsAt

theorem completes_or_fails (inOrder : registry.InOrder)
    (wellKept : registry.WellKept) :
    ((∀ attempt ∈ registry.attempts, ∃ pair,
        attempt.outcome registry.dialect = .ok pair) ∧
      registry.rebuildAll.1 = .ok () ∧ registry.Completes) ∨
    ∃ front rebuilt back done failed fault,
      registry.FailsAt front rebuilt back done failed fault := by
  rcases rebuilds_or_fails registry.dialect registry.workshop
      wellKept.coherent with
    ⟨attempts, rebuilt, rebuilds⟩ |
    ⟨front, attempts, rebuilt, id, shaders, back, fault, split, rebuilds,
      missing, failed⟩
  · obtain ⟨succeeds, attempted, completes⟩ :=
      completes_of_rebuilds inOrder wellKept rebuilds
    refine .inl ⟨?_, succeeds, completes⟩
    intro attempt member
    rw [attempted] at member
    obtain ⟨pair, compiled, _⟩ := rebuilds.exists_pair member
    exact ⟨pair, compiled⟩
  · have listed : (id, shaders) ∈ registry.materials := by
      rw [split]
      exact List.mem_append_right front List.mem_cons_self
    exact .inr ⟨front, rebuilt, back, attempts, ⟨id, shaders, _⟩, fault,
      split, rebuilds, wellKept.coherent _ listed, missing, rfl, failed⟩

/-- What was built stays as it was, whatever becomes of a rebuild. -/
theorem find?_rebuildAll_of_built (inOrder : registry.InOrder)
    (wellKept : registry.WellKept) {id : Nat} {shaders : MaterialShaders}
    (found : registry.find? id = some shaders)
    (built : shaders.state = .built) :
    registry.rebuildAll.2.find? id = some shaders := by
  have spared := not_attempted_of_built inOrder found built
  rcases completes_or_fails inOrder wellKept with
    ⟨_, _, completes⟩ | ⟨_, _, _, done, failed, _, fails⟩
  · exact (completes.rebuilt.others id spared).trans found
  · rw [fails.attempts_eq, List.map_append, List.mem_append,
      not_or] at spared
    exact ((fails.rebuiltBy inOrder).others id spared.1).trans found

namespace FailsAt

variable {front rebuilt back : List (Nat × MaterialShaders)}
  {done : List Attempt} {failed : Attempt} {fault : LoweringError}

/-- What stands below the failure is rebuilt or was built before. -/
theorem state_built_of_lt
    (fails : registry.FailsAt front rebuilt back done failed fault)
    (inOrder : registry.InOrder) {id : Nat} (lt : id < failed.id)
    {shaders : MaterialShaders}
    (found : registry.rebuildAll.2.find? id = some shaders) :
    shaders.state = .built := by
  have listed := mem_of_lookup found
  rw [fails.rebuildAll_eq] at listed
  rcases List.mem_append.mp listed with inFront | fromFailed
  · exact fails.rebuilds.state_built (id, shaders) inFront
  · rcases List.mem_cons.mp fromFailed with same | inBack
    · have equal : id = failed.id := congrArg Prod.fst same
      omega
    · have gt := (fails.ids_front_lt inOrder).2 id
        (List.mem_map.mpr ⟨_, inBack, rfl⟩)
      omega

/-- The next rebuild changes nothing below the failure. -/
theorem find?_resumed_of_lt
    (fails : registry.FailsAt front rebuilt back done failed fault)
    (inOrder : registry.InOrder) (wellKept : registry.WellKept) {id : Nat}
    (lt : id < failed.id) :
    (registry.rebuildAll.2.unregister failed.id).2.rebuildAll.2.find? id =
      registry.rebuildAll.2.find? id := by
  have inOrderRest :
      (registry.rebuildAll.2.unregister failed.id).2.InOrder :=
    (inOrder.rebuildAll wellKept).serve wellKept.rebuildAll
      (.unregister failed.id)
  have wellKeptRest :
      (registry.rebuildAll.2.unregister failed.id).2.WellKept :=
    wellKept.rebuildAll.serve (.unregister failed.id)
  have unregistered :
      (registry.rebuildAll.2.unregister failed.id).2.find? id =
        registry.rebuildAll.2.find? id := by
    rw [find?_unregister, if_neg (Nat.ne_of_lt lt)]
  cases found : registry.rebuildAll.2.find? id with
  | some shaders =>
      rw [found] at unregistered
      exact find?_rebuildAll_of_built inOrderRest wellKeptRest unregistered
        (fails.state_built_of_lt inOrder lt found)
  | none =>
      rw [found] at unregistered
      rcases find?_rebuildAll id with ⟨_, missing⟩ | ⟨_, _, present, _⟩
      · exact missing
      · rw [unregistered] at present
        cases present

theorem stopsAt
    (fails : registry.FailsAt front rebuilt back done failed fault)
    (inOrder : registry.InOrder) (wellKept : registry.WellKept) :
    registry.StopsAt done failed
      (registry.attemptsBehind failed back) := by
  have whole := fails.rebuildAll_eq
  have dialect : registry.rebuildAll.2.dialect = registry.dialect := by
    rw [whole]
  refine
    { attempts := fails.attempts_eq
      rebuilt := fails.rebuiltBy inOrder
      fails := ⟨fault, fails.outcome, by rw [whole]⟩
      workshop := by rw [whole]
      below := ?_
      onward := ?_
      kept := ?_
      resumed := fails.attempts_unregister inOrder
      settled := ?_ }
  · intro id lt shaders found
    have current := (inOrder.rebuildAll wellKept).current_find? found
    rw [dialect] at current
    exact current.builtFor (wellKept.rebuildAll.coherent_find? found)
      (fails.state_built_of_lt inOrder lt found)
  · intro id le
    apply (fails.rebuiltBy inOrder).others
    intro attempted
    have lt := fails.ids_done_lt inOrder id attempted
    omega
  · intro id shaders found built
    exact find?_rebuildAll_of_built inOrder wellKept found built
  · intro id lt
    exact fails.find?_resumed_of_lt inOrder wellKept lt

end FailsAt

end MaterialRegistry

/-- After any requests, a rebuild of all materials attempts those that are not
built in the order of their identifiers, each in the workshop that the attempt
before it left. It succeeds exactly if every attempt does, and then there is
nothing left to build. Otherwise it stops at the first attempt that fails and
answers its fault; what stands below is built, nothing else has changed, and
without the material at fault the next rebuild goes on behind it. -/
theorem rebuildAll_resumes (dialect : Dialect)
    (requests : List RegistryRequest) :
    let registry := (MaterialRegistry.empty dialect).serveAll requests
    (registry.attempts.map Attempt.id).Pairwise (· < ·) ∧
    (∀ id shaders, (id, shaders) ∈ registry.attempts.map Attempt.entry ↔
      registry.find? id = some shaders ∧ shaders.state ≠ .built) ∧
    (registry.rebuildAll.1 = .ok () ↔
      ∀ attempt ∈ registry.attempts, ∃ pair,
        attempt.outcome registry.dialect = .ok pair) ∧
    (registry.rebuildAll.1 = .ok () → registry.Completes) ∧
    (∀ error, registry.rebuildAll.1 = .error error →
      ∃ done failed left, registry.StopsAt done failed left) := by
  intro registry
  have wellKept : registry.WellKept :=
    (MaterialRegistry.wellKept_empty dialect).serveAll requests
  have inOrder : registry.InOrder :=
    (MaterialRegistry.InOrder.start dialect).serveAll
      (MaterialRegistry.wellKept_empty dialect) requests
  have increasing : (registry.attempts.map Attempt.id).Pairwise (· < ·) := by
    rw [registry.map_id_attempts]
    exact MaterialRegistry.pending_ordered inOrder
  have attempted (id : Nat) (shaders : MaterialShaders) :
      (id, shaders) ∈ registry.attempts.map Attempt.entry ↔
        registry.find? id = some shaders ∧ shaders.state ≠ .built := by
    rw [registry.map_entry_attempts]
    exact MaterialRegistry.mem_pending_iff inOrder
  rcases MaterialRegistry.completes_or_fails inOrder wellKept with
    ⟨allSucceed, succeeds, completes⟩ |
    ⟨_, _, back, done, failed, fault, fails⟩
  · refine ⟨increasing, attempted, ⟨fun _ => allSucceed, fun _ => succeeds⟩,
      fun _ => completes, ?_⟩
    intro error impossible
    rw [succeeds] at impossible
    cases impossible
  · have stopped : registry.rebuildAll.1 = .error (.lowering fault) := by
      rw [fails.rebuildAll_eq]
    have unsuccessful : registry.rebuildAll.1 ≠ .ok () := by
      rw [stopped]
      intro impossible
      cases impossible
    refine ⟨increasing, attempted, ⟨?_, ?_⟩, ?_, ?_⟩
    · intro succeeds
      exact absurd succeeds unsuccessful
    · intro allSucceed
      have member : failed ∈ registry.attempts := by
        rw [fails.attempts_eq]
        exact List.mem_append_right done List.mem_cons_self
      obtain ⟨pair, compiled⟩ := allSucceed failed member
      rw [fails.outcome] at compiled
      cases compiled
    · intro succeeds
      exact absurd succeeds unsuccessful
    · intro error _
      exact ⟨done, failed, registry.attemptsBehind failed back,
        fails.stopsAt inOrder wellKept⟩

section Examples

/-- A material that reads a variable which its vertex stage does not have. -/
def misplacedMaterial : Material where
  name := "misplaced"
  build := fun _ => pure
    { vertex := ⟨.vertex, none, [.returnValue BuiltInVariable.fragCoord]⟩
      fragment := ⟨.fragment, none, []⟩ }

/-- The material in the middle fails. Without it the last one is built too. -/
example :
    let registry := (MaterialRegistry.empty .glslEs100).serveAll
      [ .register (.grid "floor"), .register misplacedMaterial,
        .register (.grid "wall"), .rebuildAll ]
    let states := fun (registry : MaterialRegistry) =>
      registry.materials.map fun entry => (entry.1, entry.2.state)
    states registry = [(0, .built), (1, .unbuilt), (2, .unbuilt)] ∧
      states (registry.unregister 1).2.rebuildAll.2 =
        [(0, .built), (2, .built)] := by
  decide +kernel

end Examples

end Shaderwright
