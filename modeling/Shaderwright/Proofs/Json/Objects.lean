import Shaderwright.Dialect.Json
import Shaderwright.Proofs.Json.Strings

/-!
Written objects. The members of an object that is written line by line are
read back in order, each from the state that the members before it left
(`readMembers_objectText`).
-/

namespace Shaderwright.Json

open Dialect (objectText)

/-! ## The text of an object -/

/-- The line of a member, without the comma behind it. -/
def memberLine (depth : Nat) (member : String × String) : List Char :=
  List.replicate (2 * depth + 2) ' ' ++
    ((quote member.1).toList ++ ':' :: ' ' :: member.2.toList)

/-- What stands behind a member: the other members, each behind a comma, and
the end of the object. -/
def behindMember (depth : Nat) : List (String × String) → List Char
  | [] => '\n' :: List.replicate (2 * depth) ' ' ++ ['\x7d']
  | member :: others =>
      ',' :: '\n' :: (memberLine depth member ++ behindMember depth others)

theorem length_le_behindMember (depth : Nat)
    (members : List (String × String)) :
    members.length ≤ (behindMember depth members).length := by
  induction members with
  | nil =>
      exact Nat.zero_le _
  | cons member others inductionHypothesis =>
      simp only [behindMember, List.length_cons, List.length_append]
      omega

theorem toList_intercalate_lines (depth : Nat)
    (line : String × String → String)
    (line_eq : ∀ member, (line member).toList = memberLine depth member)
    (member : String × String) (others : List (String × String)) :
    (",\n".intercalate ((member :: others).map line)).toList ++
        behindMember depth [] =
      memberLine depth member ++ behindMember depth others := by
  induction others generalizing member with
  | nil =>
      simp [line_eq]
  | cons next others inductionHypothesis =>
      have behind := inductionHypothesis next
      rw [List.map_cons] at behind
      rw [List.map_cons, List.map_cons, String.intercalate_cons_cons,
        String.toList_append, String.toList_append, List.append_assoc,
        List.append_assoc, behind, line_eq]
      rfl

theorem toList_objectText_cons (depth : Nat) (member : String × String)
    (others : List (String × String)) :
    (objectText depth (member :: others)).toList =
      '\x7b' :: '\n' ::
        (memberLine depth member ++ behindMember depth others) := by
  have lines := toList_intercalate_lines depth
    (fun member =>
      String.ofList (List.replicate (2 * depth) ' ') ++ "  " ++
        quote member.1 ++ ": " ++ member.2)
    (fun member => by
      simp [memberLine, List.replicate_succ', List.append_assoc])
    member others
  rw [← lines]
  simp [objectText, behindMember]

/-! ## Reading the members -/

variable {α : Type} {member : α → String → Reader α}

/-- Read in order, each from its colon on, the members take the first state to
the last. -/
inductive ReadsMembers (member : α → String → Reader α) :
    α → List (String × String) → α → Prop where
  | nil (state : α) : ReadsMembers member state [] state
  | cons {first next last : α} {key value : String}
      {others : List (String × String)}
      (reads : ∀ rest,
        member first key (':' :: ' ' :: (value.toList ++ rest)) =
          .ok (next, rest))
      (behind : ReadsMembers member next others last) :
      ReadsMembers member first ((key, value) :: others) last

theorem skipBlanks_replicate_append (count : Nat) (text : List Char) :
    skipBlanks (List.replicate count ' ' ++ text) = skipBlanks text := by
  apply skipBlanks_append
  intro c among
  rw [List.eq_of_mem_replicate among]
  rfl

theorem readMembers_memberLine {isFirst : Bool} {state next : α}
    {key value : String} {text rest : List Char} (fuel : Nat)
    (found : nextMember isFirst text =
      .ok (.key ((quote key).toList ++
        ':' :: ' ' :: (value.toList ++ rest))))
    (reads : member state key (':' :: ' ' :: (value.toList ++ rest)) =
      .ok (next, rest)) :
    readMembers member (fuel + 1) isFirst state text =
      readMembers member fuel false next rest := by
  have keyRead := (reads_quote key).at_start
    (':' :: ' ' :: (value.toList ++ rest))
  rw [readMembers, found]
  simp only [bind, Except.bind, keyRead, reads]

theorem nextMember_memberLine (depth : Nat) (key value : String)
    (behind : List Char) :
    nextMember true ('\n' :: (memberLine depth (key, value) ++ behind)) =
        .ok (.key ((quote key).toList ++
          ':' :: ' ' :: (value.toList ++ behind))) ∧
      nextMember false
          (',' :: '\n' :: (memberLine depth (key, value) ++ behind)) =
        .ok (.key ((quote key).toList ++
          ':' :: ' ' :: (value.toList ++ behind))) := by
  have line : skipBlanks
      ('\n' :: (memberLine depth (key, value) ++ behind)) =
        '"' :: (key.toList.flatMap escape ++ '"' ::
          ':' :: ' ' :: (value.toList ++ behind)) := by
    rw [skipBlanks_cons_of_isBlank rfl, memberLine, List.append_assoc,
      skipBlanks_replicate_append, toList_quote]
    simp
    rfl
  have comma : skipBlanks
      (',' :: '\n' :: (memberLine depth (key, value) ++ behind)) =
        ',' :: '\n' :: (memberLine depth (key, value) ++ behind) :=
    skipBlanks_cons_of_not_isBlank rfl _
  constructor
  · rw [nextMember, line, toList_quote]
    simp
  · rw [nextMember, comma]
    simp [line, toList_quote]

theorem readMembers_end (depth fuel : Nat) (state : α)
    (rest : List Char) :
    readMembers member (fuel + 1) false state
        (behindMember depth [] ++ rest) =
      .ok (state, rest) := by
  have visible : skipBlanks (behindMember depth [] ++ rest) =
      '\x7d' :: rest := by
    rw [behindMember, List.cons_append, List.cons_append,
      skipBlanks_cons_of_isBlank rfl, List.append_assoc,
      skipBlanks_replicate_append]
    rfl
  rw [readMembers, nextMember, visible]
  rfl

theorem readMembers_behindMember {first last : α}
    {members : List (String × String)}
    (reads : ReadsMembers member first members last) (depth : Nat)
    (rest : List Char) :
    ∀ fuel, members.length < fuel →
      readMembers member fuel false first
          (behindMember depth members ++ rest) =
        .ok (last, rest) := by
  induction reads with
  | nil state =>
      intro fuel enough
      obtain ⟨left, rfl⟩ := Nat.exists_eq_add_of_lt enough
      exact readMembers_end depth _ state rest
  | @cons first next last key value others reads _ inductionHypothesis =>
      intro fuel enough
      rw [List.length_cons] at enough
      obtain ⟨left, rfl⟩ := Nat.exists_eq_add_of_lt enough
      have line := (nextMember_memberLine depth key value
        (behindMember depth others ++ rest)).2
      rw [behindMember, List.cons_append, List.cons_append,
        List.append_assoc, readMembers_memberLine _ line (reads _)]
      apply inductionHypothesis
      omega

/-- An object that is written is read back member by member. -/
theorem readMembers_objectText {initial last : α}
    {members : List (String × String)}
    (reads : ReadsMembers member initial members last) (depth : Nat) :
    ∃ inside, (objectText depth members).toList = '\x7b' :: inside ∧
      ∀ rest,
        readMembers member ((inside ++ rest).length + 1) true initial
            (inside ++ rest) =
          .ok (last, rest) := by
  cases reads with
  | nil =>
      exact ⟨['\x7d'], by simp [objectText], fun rest => rfl⟩
  | @cons _ next _ key value others reads behind =>
      refine ⟨_, toList_objectText_cons depth (key, value) others, ?_⟩
      intro rest
      have line := (nextMember_memberLine depth key value
        (behindMember depth others ++ rest)).1
      rw [List.cons_append, List.append_assoc,
        readMembers_memberLine _ line (reads _)]
      apply readMembers_behindMember behind
      have shorter := length_le_behindMember depth others
      simp only [List.length_cons, List.length_append]
      omega

theorem reads_objectText {initial last : α}
    {members : List (String × String)}
    (reads : ReadsMembers member initial members last) (depth : Nat) :
    Reads (readObject member initial) (objectText depth members).toList
      last := by
  obtain ⟨inside, written, members⟩ := readMembers_objectText reads depth
  rw [written]
  constructor
  · intro rest
    exact skipBlanks_cons_of_not_isBlank rfl _
  · intro text rest visible
    rw [readObject, visible]
    exact members rest

end Shaderwright.Json
