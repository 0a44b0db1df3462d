import Shaderwright.Lowering

/-!
Reading blocks line by line. A line opens a block, ends it, goes on with its
alternative or is a statement by itself; which of these it is can be told by
its last characters. The reader keeps the blocks that are open and refuses a
line that is not indented by two spaces for each of them
(`isIndented_of_reads`).
-/

namespace Shaderwright

/-! ## Texts of one line -/

/-- A text without a newline. -/
def IsInline (text : String) : Prop :=
  '\n' ∉ text.toList

/-- A text of one line that begins with a visible character. -/
def IsWord (text : String) : Prop :=
  IsInline text ∧ text.toList.head? ≠ none ∧ text.toList.head? ≠ some ' '

instance : DecidablePred IsInline :=
  fun text => inferInstanceAs (Decidable ('\n' ∉ text.toList))

instance : DecidablePred IsWord :=
  fun text => inferInstanceAs (Decidable
    (IsInline text ∧ text.toList.head? ≠ none ∧
      text.toList.head? ≠ some ' '))

theorem IsInline.append {first second : String} (left : IsInline first)
    (right : IsInline second) : IsInline (first ++ second) := by
  rw [IsInline, String.toList_append, List.mem_append, not_or]
  exact ⟨left, right⟩

theorem IsWord.append {first second : String} (word : IsWord first)
    (others : IsInline second) : IsWord (first ++ second) := by
  obtain ⟨inline, nonempty, visible⟩ := word
  have start : (first ++ second).toList.head? = first.toList.head? := by
    rw [String.toList_append]
    cases letters : first.toList with
    | nil =>
        rw [letters] at nonempty
        exact absurd rfl nonempty
    | cons c rest =>
        rfl
  exact ⟨inline.append others, start ▸ nonempty, start ▸ visible⟩

namespace Blocks

/-! ## Statements and lines -/

/-- A statement as it is read: by itself, or with the blocks that belong to
it. A conditional without an alternative is another statement than one with an
empty alternative. -/
inductive Statement where
  | simple (text : String)
  | ifThen (test : String) (body : List Statement)
  | ifElse (test : String) (body alternative : List Statement)
  | loop (header : String) (body : List Statement)

/-- What a line is, apart from its indentation. -/
inductive Line where
  | simple (text : String)
  | conditional (test : String)
  | loop (header : String)
  | otherwise
  | closing

/-- The head of a block, without the parenthesis that ends it. -/
def head? : List Char → Option Line
  | 'i' :: 'f' :: ' ' :: '(' :: test =>
      some (.conditional (String.ofList test))
  | 'f' :: 'o' :: 'r' :: ' ' :: '(' :: header =>
      some (.loop (String.ofList header))
  | _ => none

def line? (content : List Char) : Option Line :=
  if content = "\x7d".toList then
    some .closing
  else if content = "\x7d else \x7b".toList then
    some .otherwise
  else
    match content.reverse with
    | ';' :: text => some (.simple (String.ofList text.reverse))
    | '\x7b' :: ' ' :: ')' :: head => head? head.reverse
    | _ => none

/-- The lines of a text. -/
def splitLines : List Char → List (List Char)
  | [] => []
  | c :: rest =>
      if c = '\n' then
        [] :: splitLines rest
      else
        match splitLines rest with
        | [] => [[c]]
        | line :: lines => (c :: line) :: lines

theorem splitLines_append {line : List Char} (inline : '\n' ∉ line)
    (rest : List Char) :
    splitLines (line ++ '\n' :: rest) = line :: splitLines rest := by
  induction line with
  | nil =>
      rfl
  | cons c line inductionHypothesis =>
      rw [List.mem_cons, not_or] at inline
      rw [List.cons_append, splitLines, if_neg (Ne.symm inline.1),
        inductionHypothesis inline.2]

theorem line?_simple (text : String) :
    line? (text ++ ";").toList = some (.simple text) := by
  have notClosing : (text ++ ";").toList ≠ "\x7d".toList := by
    intro same
    have last := congrArg List.getLast? same
    simp at last
  have notOtherwise : (text ++ ";").toList ≠ "\x7d else \x7b".toList := by
    intro same
    have last := congrArg List.getLast? same
    simp at last
  rw [line?, if_neg notClosing, if_neg notOtherwise]
  simp

theorem line?_conditional (test : String) :
    line? ("if (" ++ test ++ ") \x7b").toList =
      some (.conditional test) := by
  have head : ("if (" ++ test ++ ") \x7b").toList.head? ≠ some '\x7d' := by
    simp
  have notClosing : ("if (" ++ test ++ ") \x7b").toList ≠
      "\x7d".toList := fun same => head (same ▸ rfl)
  have notOtherwise : ("if (" ++ test ++ ") \x7b").toList ≠
      "\x7d else \x7b".toList := fun same => head (same ▸ rfl)
  rw [line?, if_neg notClosing, if_neg notOtherwise]
  simp [head?]

theorem line?_loop (header : String) :
    line? ("for (" ++ header ++ ") \x7b").toList = some (.loop header) := by
  have head : ("for (" ++ header ++ ") \x7b").toList.head? ≠
      some '\x7d' := by
    simp
  have notClosing : ("for (" ++ header ++ ") \x7b").toList ≠
      "\x7d".toList := fun same => head (same ▸ rfl)
  have notOtherwise : ("for (" ++ header ++ ") \x7b").toList ≠
      "\x7d else \x7b".toList := fun same => head (same ▸ rfl)
  rw [line?, if_neg notClosing, if_neg notOtherwise]
  simp [head?]

/-! ## The reader -/

/-- A block that is open: the statements in front of it, its head, and for an
alternative also the block before it. -/
inductive Frame where
  | conditional (before : List Statement) (test : String)
  | alternative (before : List Statement) (test : String)
      (body : List Statement)
  | loop (before : List Statement) (header : String)

/-- The open blocks, the innermost first, and the statements that have been
read in it. -/
structure Reading where
  frames : List Frame
  current : List Statement

namespace Reading

def start : Reading := ⟨[], []⟩

/-- The level at which a line has to stand. The statements of a body stand at
level one, and the ends of a block at the level of its head. -/
def level (reading : Reading) : Line → Nat
  | .otherwise | .closing => reading.frames.length
  | .simple _ | .conditional _ | .loop _ => reading.frames.length + 1

def take (reading : Reading) : Line → Option Reading
  | .simple text =>
      some ⟨reading.frames, reading.current ++ [.simple text]⟩
  | .conditional test =>
      some ⟨.conditional reading.current test :: reading.frames, []⟩
  | .loop header =>
      some ⟨.loop reading.current header :: reading.frames, []⟩
  | .otherwise =>
      match reading.frames with
      | .conditional before test :: frames =>
          some ⟨.alternative before test reading.current :: frames, []⟩
      | _ => none
  | .closing =>
      match reading.frames with
      | .conditional before test :: frames =>
          some ⟨frames, before ++ [.ifThen test reading.current]⟩
      | .alternative before test body :: frames =>
          some ⟨frames, before ++ [.ifElse test body reading.current]⟩
      | .loop before header :: frames =>
          some ⟨frames, before ++ [.loop header reading.current]⟩
      | [] => none

end Reading

def isSpace (c : Char) : Bool :=
  c == ' '

/-- The number of spaces that a line starts with. -/
def indent (line : List Char) : Nat :=
  (line.takeWhile isSpace).length

/-- A line without the spaces that it starts with. -/
def content (line : List Char) : List Char :=
  line.dropWhile isSpace

/-- Reads one line, which has to be indented by two spaces a level. -/
def step (reading : Reading) (line : List Char) : Option Reading := do
  let kind ← line? (content line)
  if indent line = 2 * reading.level kind then
    reading.take kind
  else
    none

def readLines (reading : Reading) (lines : List (List Char)) :
    Option Reading :=
  lines.foldlM step reading

/-- The statements of a text, if all of its blocks are ended. -/
def read? (text : String) : Option (List Statement) :=
  match readLines .start (splitLines text.toList) with
  | some ⟨[], statements⟩ => some statements
  | _ => none

theorem readLines_append (reading : Reading)
    (first second : List (List Char)) :
    readLines reading (first ++ second) =
      (readLines reading first).bind fun next => readLines next second :=
  List.foldlM_append

theorem readLines_cons (reading : Reading) (line : List Char)
    (lines : List (List Char)) :
    readLines reading (line :: lines) =
      (step reading line).bind fun next => readLines next lines :=
  List.foldlM_cons

/-- Every line of a text starts with exactly two spaces for each level at
which it stands after the lines in front of it. -/
def IsIndented (text : String) : Prop :=
  ∀ before line after, splitLines text.toList = before ++ line :: after →
    ∃ reading kind, readLines .start before = some reading ∧
      line? (content line) = some kind ∧
      indent line = 2 * reading.level kind

/-- The reader accepts no other indentation. -/
theorem isIndented_of_reads {text : String} {statements : List Statement}
    (reads : read? text = some statements) : IsIndented text := by
  intro before line after split
  unfold read? at reads
  rw [split, readLines_append] at reads
  cases passed : readLines .start before with
  | none =>
      rw [passed] at reads
      cases reads
  | some reading =>
      rw [passed, Option.bind_some, readLines_cons, step] at reads
      cases told : line? (content line) with
      | none =>
          rw [told] at reads
          cases reads
      | some kind =>
          by_cases indented : indent line = 2 * reading.level kind
          case pos =>
            exact ⟨reading, kind, rfl, rfl, indented⟩
          case neg =>
            simp [told, indented] at reads

/-! ## Reading what is written -/

/-- Reading the text leads from one reading to the next, whatever follows. -/
def Leads (text : String) (reading next : Reading) : Prop :=
  ∀ rest, readLines reading (splitLines (text.toList ++ rest)) =
    readLines next (splitLines rest)

theorem Leads.trans {first second : String} {reading middle next : Reading}
    (left : Leads first reading middle) (right : Leads second middle next) :
    Leads (first ++ second) reading next := by
  intro rest
  rw [String.toList_append, List.append_assoc, left, right]

/-- The spaces of a line and the word behind them can be told apart. -/
theorem indented_word {written : String} (word : IsWord written)
    (count : Nat) :
    content (List.replicate count ' ' ++ written.toList) =
        written.toList ∧
      indent (List.replicate count ' ' ++ written.toList) = count ∧
        '\n' ∉ List.replicate count ' ' ++ written.toList := by
  obtain ⟨inline, nonempty, visible⟩ := word
  have spaces : ∀ c ∈ List.replicate count ' ', isSpace c = true := by
    intro c member
    rw [List.eq_of_mem_replicate member]
    rfl
  have oneLine : '\n' ∉ List.replicate count ' ' ++ written.toList := by
    rw [List.mem_append, not_or]
    refine ⟨fun member => ?_, inline⟩
    exact absurd (List.eq_of_mem_replicate member) (by decide)
  refine ⟨?_, ?_, oneLine⟩
  all_goals
    cases letters : written.toList with
    | nil =>
        rw [letters] at nonempty
        exact absurd rfl nonempty
    | cons c others =>
        rw [letters] at visible
        have notSpace : ¬isSpace c = true := by
          simpa [isSpace] using visible
        first
          | rw [content, List.dropWhile_append_of_pos spaces,
              List.dropWhile_cons_of_neg notSpace]
          | rw [indent, List.takeWhile_append_of_pos spaces,
              List.takeWhile_cons_of_neg notSpace, List.append_nil,
              List.length_replicate]

theorem leads_line {reading next : Reading} {level : Nat}
    {written : String} {kind : Line} (word : IsWord written)
    (told : line? written.toList = some kind)
    (stands : reading.level kind = level)
    (taken : reading.take kind = some next) :
    Leads (indentation level ++ written ++ "\n") reading next := by
  intro rest
  obtain ⟨contentEq, indentEq, oneLine⟩ := indented_word word (2 * level)
  have textEq : (indentation level ++ written ++ "\n").toList ++ rest =
      (List.replicate (2 * level) ' ' ++ written.toList) ++
        '\n' :: rest := by
    simp [indentation]
  rw [textEq, splitLines_append oneLine, readLines_cons, step, contentEq,
    told, indentEq]
  simp [stands, taken]

/-- At a depth, a text is read as the statements, which join those that were
read before it in the same block. -/
def ReadsAs (depth : Nat) (text : String) (statements : List Statement) :
    Prop :=
  ∀ frames current, frames.length = depth →
    Leads text ⟨frames, current⟩ ⟨frames, current ++ statements⟩

section ReadsAs

variable {depth : Nat} {text test header inner other : String}
  {body alternative : List Statement}

theorem readsAs_nil : ReadsAs depth "" [] := by
  intro frames current _ rest
  simp

theorem ReadsAs.append {first second : String}
    {front back : List Statement} (left : ReadsAs depth first front)
    (right : ReadsAs depth second back) :
    ReadsAs depth (first ++ second) (front ++ back) := by
  intro frames current atDepth
  rw [← List.append_assoc]
  exact (left _ _ atDepth).trans (right _ _ atDepth)

theorem readsAs_simple (word : IsWord text) :
    ReadsAs depth (indentation (depth + 1) ++ text ++ ";\n")
      [.simple text] := by
  intro frames current atDepth
  have ended : IsInline ";" := by decide
  have line : Leads (indentation (depth + 1) ++ (text ++ ";") ++ "\n")
      ⟨frames, current⟩ ⟨frames, current ++ [.simple text]⟩ :=
    leads_line (word.append ended) (line?_simple text)
      (by rw [Reading.level, atDepth]) rfl
  have textEq : indentation (depth + 1) ++ text ++ ";\n" =
      indentation (depth + 1) ++ (text ++ ";") ++ "\n" := by
    rw [← String.toList_inj]
    simp
  rw [textEq]
  exact line

theorem leads_closing {frames : List Frame} {frame : Frame}
    {current : List Statement} {next : Reading}
    (atDepth : frames.length = depth)
    (ends : Reading.take ⟨frame :: frames, current⟩ .closing = some next) :
    Leads (indentation (depth + 1) ++ "\x7d" ++ "\n")
      ⟨frame :: frames, current⟩ next :=
  leads_line (by decide) rfl
    (by rw [Reading.level, List.length_cons, atDepth]) ends

/-- A block that one line opens and one line ends. -/
theorem readsAs_block {before : String} {kind : Line}
    (frame : List Statement → Frame) (statement : Statement)
    (starts : IsWord before) (inline : IsInline test)
    (told : line? (before ++ test ++ ") \x7b").toList = some kind)
    (stands : ∀ reading : Reading,
      reading.level kind = reading.frames.length + 1)
    (opens : ∀ frames current, Reading.take ⟨frames, current⟩ kind =
      some ⟨frame current :: frames, []⟩)
    (ends : ∀ frames current,
      Reading.take ⟨frame current :: frames, body⟩ .closing =
        some ⟨frames, current ++ [statement]⟩)
    (reads : ReadsAs (depth + 1) inner body) :
    ReadsAs depth
      (indentation (depth + 1) ++ before ++ test ++ ") \x7b\n" ++ inner ++
        indentation (depth + 1) ++ "\x7d\n")
      [statement] := by
  intro frames current atDepth
  have ended : IsInline ") \x7b" := by decide
  have opening : Leads
      (indentation (depth + 1) ++ (before ++ test ++ ") \x7b") ++ "\n")
      ⟨frames, current⟩ ⟨frame current :: frames, []⟩ :=
    leads_line ((starts.append inline).append ended) told
      (by rw [stands, atDepth]) (opens frames current)
  have inside : Leads inner ⟨frame current :: frames, []⟩
      ⟨frame current :: frames, body⟩ :=
    reads (frame current :: frames) [] (by rw [List.length_cons, atDepth])
  have whole := (opening.trans inside).trans
    (leads_closing atDepth (ends frames current))
  have textEq : indentation (depth + 1) ++ before ++ test ++ ") \x7b\n" ++
      inner ++ indentation (depth + 1) ++ "\x7d\n" =
        indentation (depth + 1) ++ (before ++ test ++ ") \x7b") ++ "\n" ++
          inner ++ (indentation (depth + 1) ++ "\x7d" ++ "\n") := by
    rw [← String.toList_inj]
    simp
  rw [textEq]
  exact whole

theorem readsAs_ifThen (inline : IsInline test)
    (reads : ReadsAs (depth + 1) inner body) :
    ReadsAs depth
      (indentation (depth + 1) ++ "if (" ++ test ++ ") \x7b\n" ++ inner ++
        indentation (depth + 1) ++ "\x7d\n")
      [.ifThen test body] :=
  readsAs_block (fun before => .conditional before test)
    (.ifThen test body) (by decide) inline (line?_conditional test)
    (fun _ => rfl) (fun _ _ => rfl) (fun _ _ => rfl) reads

theorem readsAs_loop (inline : IsInline header)
    (reads : ReadsAs (depth + 1) inner body) :
    ReadsAs depth
      (indentation (depth + 1) ++ "for (" ++ header ++ ") \x7b\n" ++ inner ++
        indentation (depth + 1) ++ "\x7d\n")
      [.loop header body] :=
  readsAs_block (fun before => .loop before header) (.loop header body)
    (by decide) inline (line?_loop header) (fun _ => rfl) (fun _ _ => rfl)
    (fun _ _ => rfl) reads

/-- The line between a block and its alternative ends the one and opens the
other. -/
theorem readsAs_ifElse (inline : IsInline test)
    (reads : ReadsAs (depth + 1) inner body)
    (readsOther : ReadsAs (depth + 1) other alternative) :
    ReadsAs depth
      (indentation (depth + 1) ++ "if (" ++ test ++ ") \x7b\n" ++ inner ++
        indentation (depth + 1) ++ "\x7d else \x7b\n" ++ other ++
        indentation (depth + 1) ++ "\x7d\n")
      [.ifElse test body alternative] := by
  intro frames current atDepth
  have starts : IsWord "if (" := by decide
  have ended : IsInline ") \x7b" := by decide
  have opening : Leads
      (indentation (depth + 1) ++ ("if (" ++ test ++ ") \x7b") ++ "\n")
      ⟨frames, current⟩ ⟨.conditional current test :: frames, []⟩ :=
    leads_line ((starts.append inline).append ended) (line?_conditional test)
      (by rw [Reading.level, atDepth]) rfl
  have inside : Leads inner ⟨.conditional current test :: frames, []⟩
      ⟨.conditional current test :: frames, body⟩ :=
    reads _ [] (by rw [List.length_cons, atDepth])
  have between : Leads
      (indentation (depth + 1) ++ "\x7d else \x7b" ++ "\n")
      ⟨.conditional current test :: frames, body⟩
      ⟨.alternative current test body :: frames, []⟩ :=
    leads_line (by decide) rfl
      (by rw [Reading.level, List.length_cons, atDepth]) rfl
  have insideOther : Leads other
      ⟨.alternative current test body :: frames, []⟩
      ⟨.alternative current test body :: frames, alternative⟩ :=
    readsOther _ [] (by rw [List.length_cons, atDepth])
  have closing : Leads (indentation (depth + 1) ++ "\x7d" ++ "\n")
      ⟨.alternative current test body :: frames, alternative⟩
      ⟨frames, current ++ [.ifElse test body alternative]⟩ :=
    leads_closing atDepth rfl
  have whole := (((opening.trans inside).trans between).trans
    insideOther).trans closing
  have textEq : indentation (depth + 1) ++ "if (" ++ test ++ ") \x7b\n" ++
      inner ++ indentation (depth + 1) ++ "\x7d else \x7b\n" ++ other ++
        indentation (depth + 1) ++ "\x7d\n" =
      indentation (depth + 1) ++ ("if (" ++ test ++ ") \x7b") ++ "\n" ++
        inner ++ (indentation (depth + 1) ++ "\x7d else \x7b" ++ "\n") ++
          other ++ (indentation (depth + 1) ++ "\x7d" ++ "\n") := by
    rw [← String.toList_inj]
    simp
  rw [textEq]
  exact whole

end ReadsAs

/-- A text that is read as some statements has these statements and no
others. -/
theorem ReadsAs.read?_eq {text : String} {statements : List Statement}
    (reads : ReadsAs 0 text statements) : read? text = some statements := by
  have whole := reads [] [] rfl []
  rw [List.append_nil] at whole
  rw [read?, Reading.start, whole]
  rfl

end Blocks

end Shaderwright
