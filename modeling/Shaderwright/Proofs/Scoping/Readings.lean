import Shaderwright.Proofs.Scoping.Pieces

/-!
Texts that are read block by block. A reading keeps the declarations that hold
where it stands, and it finds something at the uses of variables and at the
ends of blocks. The text keeps the order and the blocks of the tree, so that a
reading finds in the text of a body what it finds in the body
(`BlockReading.read_bodyPieces`).
-/

namespace Shaderwright

/-! ## Declarations along a tree -/

mutual

/-- What is visible behind an operand. -/
def Operand.visibleAfter (visible : List Parameter) :
    Operand → List Parameter
  | .operation node => node.visibleAfter visible
  | .parameter _ | .literal _ | .builtIn _ | .raw _ => visible

/-- What is visible behind an operation. What the bodies in it declare is
not. -/
def Operation.visibleAfter (visible : List Parameter) :
    Operation → List Parameter
  | .assign _ left right | .compare _ left right =>
      right.visibleAfter (left.visibleAfter visible)
  | .declare symbol => symbol :: visible
  | .arithmetic _ operands | .builtIn _ operands | .call _ operands
  | .construct _ operands => operandsVisibleAfter visible operands
  | .select operand _ | .ifThen operand _ | .ifElse operand _ _
  | .returnValue operand | .convert operand _ _ =>
      operand.visibleAfter visible
  | .loop _ _ _ _ | .returnVoid => visible

/-- What is visible behind a list of operands. -/
def operandsVisibleAfter (visible : List Parameter) :
    List Operand → List Parameter
  | [] => visible
  | operand :: rest =>
      operandsVisibleAfter (operand.visibleAfter visible) rest

end

/-! ## Discarding -/

/-- A visit is not that of a `discard` with arguments, which would not be
written. -/
def Visit.DiscardsBare : Visit → Prop
  | .operation _ (.builtIn .discard arguments) => arguments = []
  | _ => True

theorem Operand.eq_declare_of_declared? {operand : Operand}
    {symbol : Parameter} (declared : operand.declared? = some symbol) :
    operand = .operation (.declare symbol) := by
  unfold Operand.declared? at declared
  split at declared
  · cases declared
    rfl
  · cases declared

/-! ## Readings -/

/-- A function that reads pieces, given what is declared where they begin and
where each open block began. At the end of a block the reading goes on with
what was declared in front of it. -/
structure BlockReading (α : Type) where
  read : List Parameter → List (List Parameter) → List Piece → List α
  /-- What counts as declared where a block begins. -/
  opening : List Parameter → List Parameter
  /-- What is found at a use. -/
  use : List Parameter → Parameter → List α
  /-- What is found at the end of a block. -/
  closing : List Parameter → List α
  read_plain : ∀ declared outer text rest,
    read declared outer (.plain text :: rest) = read declared outer rest
  read_use : ∀ declared outer symbol rest,
    read declared outer (.use symbol :: rest) =
      use declared symbol ++ read declared outer rest
  read_declaration : ∀ declared outer symbol text rest,
    read declared outer (.declaration symbol text :: rest) =
      read (symbol :: declared) outer rest
  read_opening : ∀ declared outer rest,
    read declared outer (.opening :: rest) =
      read (opening declared) (declared :: outer) rest
  read_closing : ∀ declared outer rest,
    read declared outer (.closing :: rest) =
      closing declared ++ read (outer.headD []) outer.tail rest

section Readings

variable {α : Type}

mutual

/-- What a reading finds in an operand. -/
def Operand.found (reading : BlockReading α) (declared : List Parameter) :
    Operand → List α
  | .parameter symbol => reading.use declared symbol
  | .operation node => node.found reading declared
  | .literal _ | .builtIn _ | .raw _ => []

/-- What a reading finds in an operation. -/
def Operation.found (reading : BlockReading α) (declared : List Parameter) :
    Operation → List α
  | .assign _ left right | .compare _ left right =>
      left.found reading declared ++
        right.found reading (left.visibleAfter declared)
  | .arithmetic _ operands | .builtIn _ operands | .call _ operands
  | .construct _ operands => operandsFound reading declared operands
  | .select operand _ | .returnValue operand | .convert operand _ _ =>
      operand.found reading declared
  | .ifThen condition body =>
      let inside := reading.opening (condition.visibleAfter declared)
      condition.found reading declared ++
        (bodyFound reading inside body ++
          reading.closing (body.foldl Operation.visibleAfter inside))
  | .ifElse condition body alternative =>
      let inside := reading.opening (condition.visibleAfter declared)
      condition.found reading declared ++
        (bodyFound reading inside body ++
          reading.closing (body.foldl Operation.visibleAfter inside)) ++
        (bodyFound reading inside alternative ++
          reading.closing (alternative.foldl Operation.visibleAfter inside))
  | .loop _ _ _ body =>
      let inside := reading.opening declared
      bodyFound reading inside body ++
        reading.closing (body.foldl Operation.visibleAfter inside)
  | .declare _ | .returnVoid => []

/-- What a reading finds in a list of operands. -/
def operandsFound (reading : BlockReading α) (declared : List Parameter) :
    List Operand → List α
  | [] => []
  | operand :: rest =>
      operand.found reading declared ++
        operandsFound reading (operand.visibleAfter declared) rest

/-- What a reading finds in a body. -/
def bodyFound (reading : BlockReading α) (declared : List Parameter) :
    List Operation → List α
  | [] => []
  | operation :: rest =>
      operation.found reading declared ++
        bodyFound reading (operation.visibleAfter declared) rest

end

namespace BlockReading

/-- A reading of pieces in front of any others finds the given and changes
what is declared as given. -/
def Finds (reading : BlockReading α) (pieces : List Piece)
    (found : List Parameter → List α)
    (after : List Parameter → List Parameter) : Prop :=
  ∀ declared outer rest,
    reading.read declared outer (pieces ++ rest) =
      found declared ++ reading.read (after declared) outer rest

namespace Finds

variable {reading : BlockReading α} {first second : List Piece}
  {found others : List Parameter → List α}
  {after later : List Parameter → List Parameter}

theorem nil : reading.Finds [] (fun _ => []) id := by
  intro declared outer rest
  rfl

theorem plain (text : String) :
    reading.Finds [.plain text] (fun _ => []) id := by
  intro declared outer rest
  exact reading.read_plain declared outer text rest

theorem use (symbol : Parameter) :
    reading.Finds [.use symbol] (fun declared => reading.use declared symbol)
      id := by
  intro declared outer rest
  exact reading.read_use declared outer symbol rest

theorem declaration (symbol : Parameter) (text : String) :
    reading.Finds [.declaration symbol text] (fun _ => [])
      (symbol :: ·) := by
  intro declared outer rest
  exact reading.read_declaration declared outer symbol text rest

theorem append (left : reading.Finds first found after)
    (right : reading.Finds second others later) :
    reading.Finds (first ++ second)
      (fun declared => found declared ++ others (after declared))
      (fun declared => later (after declared)) := by
  intro declared outer rest
  rw [List.append_assoc, left, right, List.append_assoc]

theorem plain_cons (text : String) (finds : reading.Finds first found after) :
    reading.Finds (.plain text :: first) found after := by
  intro declared outer rest
  rw [List.cons_append, reading.read_plain, finds]

theorem append_plain (text : String)
    (finds : reading.Finds first found after) :
    reading.Finds (first ++ [.plain text]) found after := by
  intro declared outer rest
  rw [List.append_assoc, finds, List.singleton_append, reading.read_plain]

theorem expressionPieces (position : Position)
    (finds : reading.Finds first found after) :
    reading.Finds (position.expressionPieces first) found after := by
  cases position with
  | statement level =>
      exact (finds.append_plain ";\n").plain_cons (indentation level)
  | value =>
      exact finds

theorem parenthesizedPieces (operand : Operand)
    (finds : reading.Finds first found after) :
    reading.Finds (operand.parenthesizedPieces first) found after := by
  unfold Operand.parenthesizedPieces
  split
  · exact (finds.append_plain ")").plain_cons "("
  · exact finds

/-- What a block declares is forgotten behind it. -/
theorem block (level : Nat) (head : reading.Finds first found after)
    (body : reading.Finds second others later) :
    reading.Finds (blockPieces first second level)
      (fun declared =>
        let inside := reading.opening (after declared)
        found declared ++ (others inside ++ reading.closing (later inside)))
      after := by
  intro declared outer rest
  unfold blockPieces
  -- Inside the block, what is declared at its brace is kept for its end.
  rw [List.append_assoc, head, List.cons_append, reading.read_opening,
    List.append_assoc, body, List.cons_append, reading.read_plain,
    List.singleton_append, reading.read_closing]
  simp only [List.headD_cons, List.tail_cons, List.append_assoc]

end Finds

end BlockReading

section Tree

variable {reading : BlockReading α} {target : Target}

/-- An operand is read in the text as in the tree. -/
def Operand.IsRead (reading : BlockReading α) (target : Target)
    (operand : Operand) : Prop :=
  reading.Finds (operand.pieces target)
    (fun declared => operand.found reading declared)
    (fun declared => operand.visibleAfter declared)

/-- A list of operands is read one after the other, whatever stands between
them and around each. -/
private theorem finds_joinedPieces (separator : String)
    {wrapped : Operand → List Piece}
    (wraps : ∀ operand : Operand, operand.IsRead reading target →
      reading.Finds (wrapped operand)
        (fun declared => operand.found reading declared)
        (fun declared => operand.visibleAfter declared)) :
    ∀ operands : List Operand,
      (∀ operand ∈ operands, operand.IsRead reading target) →
        reading.Finds
          (joinedPieces separator (operands.map wrapped))
          (fun declared => operandsFound reading declared operands)
          (fun declared => operandsVisibleAfter declared operands)
  | [], _ => by
      exact .nil
  | [operand], isRead => by
      have only := wraps operand (isRead operand (by simp))
      intro declared outer rest
      simp [joinedPieces, operandsFound, operandsVisibleAfter,
        only declared outer rest]
  | operand :: next :: rest, isRead => by
      have first := wraps operand (isRead operand (by simp))
      have others := finds_joinedPieces separator wraps (next :: rest)
        fun later member => isRead later (List.mem_cons_of_mem _ member)
      exact first.append (others.plain_cons separator)

private theorem finds_callPieces (name : String) {operands : List Operand}
    (isRead : ∀ operand ∈ operands, operand.IsRead reading target) :
    reading.Finds (callPieces name (operandPieces target operands))
      (fun declared => operandsFound reading declared operands)
      (fun declared => operandsVisibleAfter declared operands) := by
  rw [operandPieces_eq_map]
  have joined :=
    finds_joinedPieces ", " (fun _ finds => finds) operands isRead
  exact (joined.append_plain ")").plain_cons (name ++ "(")

/-- Nothing is found in texts behind a first argument. -/
private theorem finds_padded :
    ∀ (texts : List String) {pieces : List Piece}
      {found : List Parameter → List α}
      {after : List Parameter → List Parameter},
      reading.Finds pieces found after →
        reading.Finds (joinedPieces ", "
          (pieces :: texts.map fun text => [.plain text])) found after
  | [], _, _, _, finds => finds
  | text :: rest, _, _, _, finds => by
      have padding := finds_padded rest (.plain text)
      have whole := finds.append (padding.plain_cons ", ")
      simp only [List.append_nil] at whole
      exact whole

mutual

theorem Operand.isRead : ∀ operand : Operand,
    (∀ visit ∈ operand.visits, visit.DiscardsBare) →
      operand.IsRead reading target
  | .parameter symbol, _ => by
      exact .use symbol
  | .literal _, _ | .builtIn _, _ | .raw _, _ => by
      exact .plain _
  | .operation node, bare => by
      rw [Operand.visits] at bare
      exact Operation.finds .value node bare

/-- By induction on the tree: each case reads its parts one after the other,
as its pieces are put together. -/
theorem Operation.finds (position : Position) : ∀ node : Operation,
    (∀ visit ∈ node.visits position, visit.DiscardsBare) →
      reading.Finds (node.pieces target position)
        (fun declared => node.found reading declared)
        (fun declared => node.visibleAfter declared)
  | .assign operator assigned value, bare => by
      rw [Operation.visits, List.forall_mem_cons,
        List.forall_mem_append] at bare
      obtain ⟨_, bareTarget, bareValue⟩ := bare
      have right := Operand.isRead value bareValue
      rw [Operation.pieces]
      cases declared : assigned.declared? with
      | some symbol =>
          obtain rfl := Operand.eq_declare_of_declared? declared
          exact ((BlockReading.Finds.declaration symbol _).append
            (right.plain_cons _)).expressionPieces position
      | none =>
          rw [declared] at bareTarget
          have left := Operand.isRead assigned bareTarget
          exact (left.append (right.plain_cons _)).expressionPieces position
  | .declare symbol, _ => by
      exact ((BlockReading.Finds.declaration symbol _).append_plain
        _).plain_cons _
  | .returnVoid, _ => by
      exact BlockReading.Finds.plain _
  | .arithmetic operator operands, bare => by
      rw [Operation.visits, List.forall_mem_cons] at bare
      rw [Operation.pieces, parenthesizedAllPieces_eq_map]
      have areRead := operands_areRead operands bare.2
      exact (finds_joinedPieces _
        (fun operand finds => finds.parenthesizedPieces operand) operands
        areRead).expressionPieces position
  | .compare operator left right, bare => by
      rw [Operation.visits, List.forall_mem_cons,
        List.forall_mem_append] at bare
      obtain ⟨_, bareLeft, bareRight⟩ := bare
      have first :=
        (Operand.isRead left bareLeft).parenthesizedPieces left
      have second :=
        (Operand.isRead right bareRight).parenthesizedPieces right
      exact (first.append (second.plain_cons _)).expressionPieces position
  | .select base suffix, bare => by
      rw [Operation.visits, List.forall_mem_cons] at bare
      have finds :=
        (Operand.isRead base bare.2).parenthesizedPieces base
      exact (finds.append_plain suffix).expressionPieces position
  | .builtIn function arguments, bare => by
      rw [Operation.visits, List.forall_mem_cons] at bare
      rw [Operation.pieces]
      by_cases discards : function = .discard
      · subst discards
        obtain rfl : arguments = [] := bare.1
        exact BlockReading.Finds.plain _
      · rw [if_neg discards]
        have areRead := operands_areRead arguments bare.2
        exact (finds_callPieces _ areRead).expressionPieces position
  | .ifThen condition body, bare => by
      rw [Operation.visits, List.forall_mem_cons,
        List.forall_mem_append] at bare
      obtain ⟨_, bareCondition, bareBody⟩ := bare
      have head := ((Operand.isRead condition bareCondition).append_plain
        ") ").plain_cons (indentation position.depth ++ "if (")
      have inner := body_finds (position.depth + 1) body bareBody
      exact (head.block position.depth inner).append_plain "\n"
  | .ifElse condition body alternative, bare => by
      rw [Operation.visits, List.forall_mem_cons, List.forall_mem_append,
        List.forall_mem_append] at bare
      obtain ⟨_, bareCondition, bareBody, bareAlternative⟩ := bare
      have head := ((Operand.isRead condition bareCondition).append_plain
        ") ").plain_cons (indentation position.depth ++ "if (")
      have inner := body_finds (position.depth + 1) body bareBody
      have other :=
        body_finds (position.depth + 1) alternative bareAlternative
      have first := head.block position.depth inner
      have second :=
        (BlockReading.Finds.plain " else ").block position.depth other
      exact first.append (second.append_plain "\n")
  | .loop initial condition step body, bare => by
      rw [Operation.visits, List.forall_mem_cons] at bare
      have inner := body_finds (position.depth + 1) body bare.2
      exact ((BlockReading.Finds.plain _).block position.depth
        inner).append_plain "\n"
  | .returnValue value, bare => by
      rw [Operation.visits, List.forall_mem_cons] at bare
      have finds := Operand.isRead value bare.2
      exact (finds.append_plain ";\n").plain_cons _
  | .call function operands, bare => by
      rw [Operation.visits, List.forall_mem_cons] at bare
      have areRead := operands_areRead operands bare.2
      exact (finds_callPieces _ areRead).expressionPieces position
  | .construct type operands, bare => by
      rw [Operation.visits, List.forall_mem_cons] at bare
      have areRead := operands_areRead operands bare.2
      exact (finds_callPieces _ areRead).expressionPieces position
  | .convert source type pad, bare => by
      rw [Operation.visits, List.forall_mem_cons,
        List.forall_mem_append] at bare
      have padded := finds_padded (resultOf (paddingTexts source type pad))
        (Operand.isRead source bare.2.1)
      exact ((padded.append_plain ")").plain_cons _).expressionPieces
        position

theorem operands_areRead : ∀ operands : List Operand,
    (∀ visit ∈ operandVisits operands, visit.DiscardsBare) →
      ∀ operand ∈ operands, operand.IsRead reading target
  | [], _ => by
      intro operand member
      simp at member
  | operand :: rest, bare => by
      rw [operandVisits, List.forall_mem_append] at bare
      have first := Operand.isRead operand bare.1
      exact List.forall_mem_cons.mpr
        ⟨first, operands_areRead rest bare.2⟩

theorem body_finds (level : Nat) : ∀ body : List Operation,
    (∀ visit ∈ bodyVisits level body, visit.DiscardsBare) →
      reading.Finds (bodyPieces target level body)
        (fun declared => bodyFound reading declared body)
        (fun declared => body.foldl Operation.visibleAfter declared)
  | [], _ => by
      exact .nil
  | operation :: rest, bare => by
      rw [bodyVisits, List.forall_mem_append] at bare
      have first := Operation.finds (.statement level) operation bare.1
      have later := body_finds level rest bare.2
      exact first.append later

end

/-- A text of a body is read as the body. -/
theorem BlockReading.read_bodyPieces {body : List Operation} {level : Nat}
    (bare : ∀ visit ∈ bodyVisits level body, visit.DiscardsBare)
    (declared : List Parameter) :
    reading.read declared [] (bodyPieces target level body) =
      bodyFound reading declared body ++
        reading.read (body.foldl Operation.visibleAfter declared) [] [] := by
  have finds : reading.Finds (bodyPieces target level body) _ _ :=
    body_finds level body bare
  have read := finds declared [] []
  rwa [List.append_nil] at read

end Tree

end Readings

end Shaderwright
