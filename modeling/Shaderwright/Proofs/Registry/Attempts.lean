import Shaderwright.Proofs.Registry.Requests

/-!
Rebuilding materials in turn. The materials that are not built are attempted
one after the other, each in the workshop that the attempt before it left.
Either all attempts succeed, or there is a first one that fails
(`rebuilds_or_fails`).
-/

namespace Shaderwright

/-! ## Attempts -/

/-- One attempt to rebuild a material, in the workshop of that moment. -/
structure Attempt where
  id : Nat
  shaders : MaterialShaders
  workshop : Workshop

namespace Attempt

def entry (attempt : Attempt) : Nat × MaterialShaders :=
  (attempt.id, attempt.shaders)

/-- What is compiled for the light counts of the material. -/
def outcome (dialect : Dialect) (attempt : Attempt) :
    Except LoweringError CompiledPair :=
  attempt.shaders.material.compiledIn dialect attempt.shaders.lights
    attempt.workshop

/-- The workshop that the attempt leaves, also where it fails. -/
def workshopAfter (dialect : Dialect) (attempt : Attempt) : Workshop :=
  (attempt.shaders.rebuildIfStale dialect attempt.workshop).2

end Attempt

/-- The attempts at materials in turn, each in the workshop that the one before
it left. -/
def attemptsAt (dialect : Dialect) :
    Workshop → List (Nat × MaterialShaders) → List Attempt
  | _, [] => []
  | workshop, (id, shaders) :: rest =>
      ⟨id, shaders, workshop⟩ ::
        attemptsAt dialect
          ((Attempt.mk id shaders workshop).workshopAfter dialect) rest

/-- The workshop behind attempts that begin in the given one. -/
def workshopBehind (dialect : Dialect) (workshop : Workshop)
    (attempts : List Attempt) : Workshop :=
  attempts.foldl (fun _ attempt => attempt.workshopAfter dialect) workshop

/-- The materials that are not built, in their order. -/
def pendingIn (materials : List (Nat × MaterialShaders)) :
    List (Nat × MaterialShaders) :=
  materials.filter fun entry => entry.2.state ≠ .built

namespace MaterialRegistry

def pending (registry : MaterialRegistry) : List (Nat × MaterialShaders) :=
  pendingIn registry.materials

/-- The attempts at the materials that are not built. -/
def attempts (registry : MaterialRegistry) : List Attempt :=
  attemptsAt registry.dialect registry.workshop registry.pending

end MaterialRegistry

section Attempts

variable {dialect : Dialect} {workshop : Workshop}

theorem map_entry_attemptsAt (entries : List (Nat × MaterialShaders)) :
    (attemptsAt dialect workshop entries).map Attempt.entry = entries := by
  induction entries generalizing workshop with
  | nil =>
      rfl
  | cons entry rest inductionHypothesis =>
      obtain ⟨id, shaders⟩ := entry
      rw [attemptsAt, List.map_cons, inductionHypothesis]
      rfl

theorem pendingIn_append (front back : List (Nat × MaterialShaders)) :
    pendingIn (front ++ back) = pendingIn front ++ pendingIn back :=
  List.filter_append front back

theorem pendingIn_cons_of_built {id : Nat} {shaders : MaterialShaders}
    (built : shaders.state = .built) (rest : List (Nat × MaterialShaders)) :
    pendingIn ((id, shaders) :: rest) = pendingIn rest := by
  apply List.filter_cons_of_neg
  simpa using built

theorem pendingIn_cons_of_missing {id : Nat} {shaders : MaterialShaders}
    (missing : shaders.state ≠ .built)
    (rest : List (Nat × MaterialShaders)) :
    pendingIn ((id, shaders) :: rest) =
      (id, shaders) :: pendingIn rest := by
  apply List.filter_cons_of_pos
  simpa using missing

theorem pendingIn_eq_nil {materials : List (Nat × MaterialShaders)}
    (built : ∀ entry ∈ materials, entry.2.state = .built) :
    pendingIn materials = [] := by
  apply List.filter_eq_nil_iff.mpr
  intro entry member
  have state := built entry member
  simpa using state

end Attempts

/-! ## Rebuilding in turn -/

/-- Materials are rebuilt in turn by attempts that all succeed, and materials
that are built already are passed over. -/
inductive Rebuilds (dialect : Dialect) :
    Workshop → List (Nat × MaterialShaders) → List Attempt →
      List (Nat × MaterialShaders) → Prop
  | nil {workshop : Workshop} : Rebuilds dialect workshop [] [] []
  | kept {workshop : Workshop} {id : Nat} {shaders : MaterialShaders}
      {rest later : List (Nat × MaterialShaders)} {attempts : List Attempt}
      (coherent : shaders.Coherent)
      (built : shaders.state = .built)
      (others : Rebuilds dialect workshop rest attempts later) :
      Rebuilds dialect workshop ((id, shaders) :: rest) attempts
        ((id, shaders) :: later)
  | rebuilt {workshop : Workshop} {id : Nat} {shaders : MaterialShaders}
      {pair : CompiledPair} {rest later : List (Nat × MaterialShaders)}
      {attempts : List Attempt}
      (coherent : shaders.Coherent)
      (missing : shaders.state ≠ .built)
      (compiled :
        (Attempt.mk id shaders workshop).outcome dialect = .ok pair)
      (others : Rebuilds dialect
        ((Attempt.mk id shaders workshop).workshopAfter dialect) rest
        attempts later) :
      Rebuilds dialect workshop ((id, shaders) :: rest)
        (⟨id, shaders, workshop⟩ :: attempts)
        ((id, { shaders with compiled? := some pair, state := .built }) ::
          later)

namespace MaterialRegistry

section Each

variable {dialect : Dialect} {workshop : Workshop} {id : Nat}
  {shaders : MaterialShaders}

theorem rebuildEach_cons_of_built (coherent : shaders.Coherent)
    (built : shaders.state = .built)
    (rest : List (Nat × MaterialShaders)) :
    rebuildEach dialect ((id, shaders) :: rest) workshop =
      (((rebuildEach dialect rest workshop).1.1,
        (id, shaders) :: (rebuildEach dialect rest workshop).1.2),
        (rebuildEach dialect rest workshop).2) := by
  obtain ⟨pair, kept⟩ := coherent.exists_pair built
  have answered :=
    MaterialShaders.rebuildIfStale_of_compiled kept dialect workshop
  simp only [rebuildEach, bind, StateT.bind, answered]
  rfl

theorem rebuildEach_cons_of_ok (coherent : shaders.Coherent)
    (missing : shaders.state ≠ .built) {pair : CompiledPair}
    (compiled : (Attempt.mk id shaders workshop).outcome dialect = .ok pair)
    (rest : List (Nat × MaterialShaders)) :
    rebuildEach dialect ((id, shaders) :: rest) workshop =
      let behind := rebuildEach dialect rest
        ((Attempt.mk id shaders workshop).workshopAfter dialect)
      ((behind.1.1,
        (id, { shaders with compiled? := some pair, state := .built }) ::
          behind.1.2),
        behind.2) := by
  have absent := coherent.compiled?_eq_none missing
  have answered :=
    MaterialShaders.rebuildIfStale_of_missing absent dialect workshop
  have made :
      shaders.material.compiledIn dialect shaders.lights workshop =
        .ok pair :=
    compiled
  rw [made] at answered
  simp only [rebuildEach, bind, StateT.bind, Attempt.workshopAfter]
  generalize shaders.rebuildIfStale dialect workshop = rebuilding
    at answered ⊢
  obtain ⟨_, workshop'⟩ := rebuilding
  cases answered
  rfl

theorem rebuildEach_cons_of_error (coherent : shaders.Coherent)
    (missing : shaders.state ≠ .built) {fault : LoweringError}
    (failed : (Attempt.mk id shaders workshop).outcome dialect =
      .error fault)
    (rest : List (Nat × MaterialShaders)) :
    rebuildEach dialect ((id, shaders) :: rest) workshop =
      ((.error fault, (id, shaders) :: rest),
        (Attempt.mk id shaders workshop).workshopAfter dialect) := by
  have absent := coherent.compiled?_eq_none missing
  have answered :=
    MaterialShaders.rebuildIfStale_of_missing absent dialect workshop
  have made :
      shaders.material.compiledIn dialect shaders.lights workshop =
        .error fault :=
    failed
  rw [made] at answered
  simp only [rebuildEach, bind, StateT.bind, Attempt.workshopAfter]
  generalize shaders.rebuildIfStale dialect workshop = rebuilding
    at answered ⊢
  obtain ⟨_, workshop'⟩ := rebuilding
  cases answered
  rfl

end Each

end MaterialRegistry

namespace Rebuilds

variable {dialect : Dialect} {workshop : Workshop}
  {materials later : List (Nat × MaterialShaders)}
  {attempts : List Attempt}

/-- Behind materials that are rebuilt, the rebuild goes on with the others. -/
theorem rebuildEach_append
    (rebuilds : Rebuilds dialect workshop materials attempts later)
    (back : List (Nat × MaterialShaders)) :
    MaterialRegistry.rebuildEach dialect (materials ++ back) workshop =
      let behind := MaterialRegistry.rebuildEach dialect back
        (workshopBehind dialect workshop attempts)
      ((behind.1.1, later ++ behind.1.2), behind.2) := by
  induction rebuilds with
  | nil =>
      rfl
  | kept coherent built others inductionHypothesis =>
      rw [List.cons_append,
        MaterialRegistry.rebuildEach_cons_of_built coherent built,
        inductionHypothesis]
      rfl
  | rebuilt coherent missing compiled others inductionHypothesis =>
      rw [List.cons_append,
        MaterialRegistry.rebuildEach_cons_of_ok coherent missing
          compiled,
        inductionHypothesis]
      rfl

theorem rebuildEach_eq
    (rebuilds : Rebuilds dialect workshop materials attempts later) :
    MaterialRegistry.rebuildEach dialect materials workshop =
      ((.ok (), later), workshopBehind dialect workshop attempts) := by
  have nothing : ∀ left : Workshop,
      MaterialRegistry.rebuildEach dialect [] left = ((.ok (), []), left) :=
    fun _ => rfl
  have whole := rebuilds.rebuildEach_append []
  simpa only [nothing, List.append_nil] using whole

theorem attemptsAt_append
    (rebuilds : Rebuilds dialect workshop materials attempts later)
    (back : List (Nat × MaterialShaders)) :
    attemptsAt dialect workshop (pendingIn (materials ++ back)) =
      attempts ++ attemptsAt dialect
        (workshopBehind dialect workshop attempts) (pendingIn back) := by
  induction rebuilds with
  | nil =>
      rfl
  | kept coherent built others inductionHypothesis =>
      rw [List.cons_append, pendingIn_cons_of_built built,
        inductionHypothesis]
  | rebuilt coherent missing compiled others inductionHypothesis =>
      rw [List.cons_append, pendingIn_cons_of_missing missing, attemptsAt,
        inductionHypothesis]
      rfl

theorem attemptsAt_eq
    (rebuilds : Rebuilds dialect workshop materials attempts later) :
    attemptsAt dialect workshop (pendingIn materials) = attempts := by
  have whole := rebuilds.attemptsAt_append []
  simpa [pendingIn, attemptsAt] using whole

theorem keys (rebuilds : Rebuilds dialect workshop materials attempts later) :
    later.map Prod.fst = materials.map Prod.fst := by
  induction rebuilds with
  | nil =>
      rfl
  | kept coherent built others inductionHypothesis =>
      rw [List.map_cons, List.map_cons, inductionHypothesis]
  | rebuilt coherent missing compiled others inductionHypothesis =>
      rw [List.map_cons, List.map_cons, inductionHypothesis]

theorem state_built
    (rebuilds : Rebuilds dialect workshop materials attempts later) :
    ∀ entry ∈ later, entry.2.state = .built := by
  induction rebuilds with
  | nil =>
      intro entry impossible
      cases impossible
  | kept coherent built others inductionHypothesis =>
      exact List.forall_mem_cons.mpr ⟨built, inductionHypothesis⟩
  | rebuilt coherent missing compiled others inductionHypothesis =>
      exact List.forall_mem_cons.mpr ⟨rfl, inductionHypothesis⟩

theorem exists_pair
    (rebuilds : Rebuilds dialect workshop materials attempts later)
    {attempt : Attempt} (member : attempt ∈ attempts) :
    ∃ pair, attempt.outcome dialect = .ok pair ∧
      (attempt.id,
        { attempt.shaders with compiled? := some pair, state := .built }) ∈
        later := by
  induction rebuilds with
  | nil =>
      cases member
  | kept coherent built others inductionHypothesis =>
      obtain ⟨pair, compiled, stored⟩ := inductionHypothesis member
      exact ⟨pair, compiled, List.mem_cons_of_mem _ stored⟩
  | @rebuilt _ _ _ pair _ _ _ coherent missing compiled others
      inductionHypothesis =>
      rcases List.mem_cons.mp member with rfl | inRest
      · exact ⟨pair, compiled, List.mem_cons_self⟩
      · obtain ⟨other, compiledOther, stored⟩ := inductionHypothesis inRest
        exact ⟨other, compiledOther, List.mem_cons_of_mem _ stored⟩

/-- What was not attempted is found as it was. -/
theorem lookup_eq
    (rebuilds : Rebuilds dialect workshop materials attempts later) {id : Nat}
    (spared : id ∉ attempts.map Attempt.id) :
    later.lookup id = materials.lookup id := by
  induction rebuilds with
  | nil =>
      rfl
  | @kept _ known shaders rest laterRest _ coherent built others
      inductionHypothesis =>
      have behind := inductionHypothesis spared
      by_cases same : id = known
      case pos =>
          rw [same, lookup_cons_self, lookup_cons_self]
      case neg =>
          rw [lookup_cons_of_ne _ _ same, lookup_cons_of_ne _ _ same, behind]
  | @rebuilt _ known shaders pair rest laterRest _ coherent missing compiled
      others inductionHypothesis =>
      rw [List.map_cons, List.mem_cons, not_or] at spared
      obtain ⟨different, sparedBehind⟩ := spared
      have behind := inductionHypothesis sparedBehind
      rw [lookup_cons_of_ne _ _ different, lookup_cons_of_ne _ _ different,
        behind]

/-- Materials that are built need no attempt. -/
theorem of_built (coherent : ∀ entry ∈ materials, entry.2.Coherent)
    (built : ∀ entry ∈ materials, entry.2.state = .built) :
    Rebuilds dialect workshop materials [] materials := by
  induction materials with
  | nil =>
      exact .nil
  | cons entry rest inductionHypothesis =>
      obtain ⟨id, shaders⟩ := entry
      obtain ⟨known, others⟩ := List.forall_mem_cons.mp coherent
      obtain ⟨first, othersBuilt⟩ := List.forall_mem_cons.mp built
      exact .kept known first (inductionHypothesis others othersBuilt)

end Rebuilds

/-- Either every attempt succeeds, or there is a first one that fails. -/
theorem rebuilds_or_fails (dialect : Dialect) (workshop : Workshop)
    {materials : List (Nat × MaterialShaders)}
    (coherent : ∀ entry ∈ materials, entry.2.Coherent) :
    (∃ attempts later,
      Rebuilds dialect workshop materials attempts later) ∨
    ∃ front attempts later id shaders back fault,
      materials = front ++ (id, shaders) :: back ∧
      Rebuilds dialect workshop front attempts later ∧
      shaders.state ≠ .built ∧
      (Attempt.mk id shaders
        (workshopBehind dialect workshop attempts)).outcome dialect =
          .error fault := by
  induction materials generalizing workshop with
  | nil =>
      exact .inl ⟨[], [], .nil⟩
  | cons entry rest inductionHypothesis =>
      obtain ⟨id, shaders⟩ := entry
      obtain ⟨known, others⟩ := List.forall_mem_cons.mp coherent
      have behind (workshop : Workshop) :=
        inductionHypothesis workshop others
      by_cases built : shaders.state = .built
      case pos =>
          rcases behind workshop with
            ⟨attempts, later, rebuilds⟩ |
            ⟨front, attempts, later, other, failing, back, fault, rfl,
              rebuilds, missing, failed⟩
          · exact .inl ⟨attempts, _, .kept known built rebuilds⟩
          · exact .inr ⟨(id, shaders) :: front, attempts, _, other, failing,
              back, fault, rfl, .kept known built rebuilds, missing, failed⟩
      case neg =>
          let attempt := Attempt.mk id shaders workshop
          cases compiled : attempt.outcome dialect with
          | error fault =>
              exact .inr ⟨[], [], [], id, shaders, rest, fault, rfl, .nil,
                built, compiled⟩
          | ok pair =>
              rcases behind (attempt.workshopAfter dialect) with
                ⟨attempts, later, rebuilds⟩ |
                ⟨front, attempts, later, other, failing, back, fault, rfl,
                  rebuilds, missing, failed⟩
              · exact .inl ⟨attempt :: attempts, _,
                  .rebuilt known built compiled rebuilds⟩
              · exact .inr ⟨(id, shaders) :: front, attempt :: attempts, _,
                  other, failing, back, fault, rfl,
                  .rebuilt known built compiled rebuilds, missing, failed⟩

end Shaderwright
