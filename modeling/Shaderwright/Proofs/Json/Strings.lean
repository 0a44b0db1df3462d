import Shaderwright.Json.Quote
import Shaderwright.Json.Reader

/-!
Written strings. A string between its quotation marks is read back as it was,
character by character, whatever stands before and behind it
(`reads_quote`).
-/

namespace Shaderwright.Json

/-! ## Blanks -/

@[simp]
theorem skipBlanks_cons_of_isBlank {c : Char} (blank : isBlank c = true)
    (text : List Char) : skipBlanks (c :: text) = skipBlanks text := by
  rw [skipBlanks, List.dropWhile_cons_of_pos blank, skipBlanks]

@[simp]
theorem skipBlanks_cons_of_not_isBlank {c : Char}
    (visible : isBlank c = false) (text : List Char) :
    skipBlanks (c :: text) = c :: text := by
  rw [skipBlanks, List.dropWhile_cons_of_neg]
  simp [visible]

theorem skipBlanks_append {blanks : List Char}
    (allBlank : ∀ c ∈ blanks, isBlank c = true) (text : List Char) :
    skipBlanks (blanks ++ text) = skipBlanks text := by
  induction blanks with
  | nil =>
      rfl
  | cons c blanks inductionHypothesis =>
      obtain ⟨blank, others⟩ := List.forall_mem_cons.mp allBlank
      rw [List.cons_append, skipBlanks_cons_of_isBlank blank,
        inductionHypothesis others]

theorem readMark_of_skipBlanks {mark : Char} {text rest : List Char}
    (visible : skipBlanks text = mark :: rest) :
    readMark mark text = .ok ((), rest) := by
  rw [readMark, visible]
  exact if_pos rfl

/-- The reader takes the written form for the value, whatever blanks precede
it and whatever follows it. -/
structure Reads {α : Type} (reader : Reader α) (written : List Char)
    (value : α) : Prop where
  /-- The written form does not start with a blank. -/
  visible : ∀ rest, skipBlanks (written ++ rest) = written ++ rest
  reads : ∀ text rest, skipBlanks text = written ++ rest →
    reader text = .ok (value, rest)

namespace Reads

variable {α : Type} {reader : Reader α} {written : List Char} {value : α}

theorem at_start (reads : Reads reader written value) (rest : List Char) :
    reader (written ++ rest) = .ok (value, rest) :=
  reads.reads _ rest (reads.visible rest)

theorem behind_space (reads : Reads reader written value)
    (rest : List Char) :
    reader (' ' :: (written ++ rest)) = .ok (value, rest) := by
  apply reads.reads
  rw [skipBlanks_cons_of_isBlank rfl]
  exact reads.visible rest

end Reads

/-! ## Characters -/

private theorem hexUnit?_control : ∀ n < 0x20,
    hexUnit? '0' '0' (hexDigit (n / 16)) (hexDigit (n % 16)) = some n := by
  decide

private theorem not_isSurrogate_control {n : Nat} (control : n < 0x20) :
    isTrailingSurrogate n = false ∧ isLeadingSurrogate n = false := by
  constructor
  · exact decide_eq_false fun bounds => by omega
  · exact decide_eq_false fun bounds => by omega

private theorem readStringBody_control {c : Char}
    (control : c.toNat < 0x20) (rest : List Char) :
    readStringBody ('\\' :: 'u' :: '0' :: '0' :: hexDigit (c.toNat / 16) ::
      hexDigit (c.toNat % 16) :: rest) = prepend c (readStringBody rest) := by
  obtain ⟨notTrailing, notLeading⟩ := not_isSurrogate_control control
  rw [readStringBody]
  simp [hexUnit?_control c.toNat control, notTrailing, notLeading,
    Char.ofNat_toNat]

/-- The written form of a character is read back as that character. -/
theorem readStringBody_escape (c : Char) (rest : List Char) :
    readStringBody (escape c ++ rest) = prepend c (readStringBody rest) := by
  unfold escape
  split
  case h_8 notQuote notBackslash _ _ _ _ _ =>
    by_cases control : c.toNat < 0x20
    case pos =>
      rw [if_pos control]
      exact readStringBody_control control rest
    case neg =>
      rw [if_neg control, List.singleton_append, readStringBody]
      · exact if_neg control
      all_goals simp_all
  all_goals rfl

theorem readStringBody_flatMap_escape (characters rest : List Char) :
    readStringBody (characters.flatMap escape ++ '"' :: rest) =
      .ok (characters, rest) := by
  induction characters with
  | nil =>
      rfl
  | cons c characters inductionHypothesis =>
      rw [List.flatMap_cons, List.append_assoc, readStringBody_escape,
        inductionHypothesis]
      rfl

/-! ## Strings -/

theorem toList_quote (text : String) :
    (quote text).toList =
      '"' :: (text.toList.flatMap escape ++ ['"']) := by
  rw [quote, String.toList_ofList, List.cons_append]

/-- A string that is written is read back as it was. -/
theorem reads_quote (text : String) :
    Reads readString (quote text).toList text where
  visible rest := by
    rw [toList_quote]
    exact skipBlanks_cons_of_not_isBlank rfl _
  reads before rest visible := by
    rw [toList_quote, List.cons_append, List.append_assoc] at visible
    have body := readStringBody_flatMap_escape text.toList rest
    rw [readString, visible]
    simp only [List.singleton_append, body]
    exact congrArg (fun read => Except.ok (read, rest))
      String.ofList_toList

end Shaderwright.Json
