import Mathlib.Data.List.Perm.Subperm
import Shaderwright.Proofs.Json.Objects

/-!
Dialects as JSON. Whichever fields of a dialect are written, and in whichever
order, reading them gives the dialect back on these fields and the default on
the others (`ofJson_written`).
-/

namespace Shaderwright

/-! ## Names -/

theorem ShaderType.named?_name (type : ShaderType) :
    named? ShaderType.name ShaderType.all type.name = some type := by
  cases type <;> decide

theorem Qualifier.named?_name (qualifier : Qualifier) :
    named? Qualifier.name Qualifier.all qualifier.name =
      some qualifier := by
  cases qualifier <;> decide

theorem Precision.named?_name (precision : Precision) :
    named? Precision.name Precision.all precision.name =
      some precision := by
  cases precision <;> decide

namespace Dialect

open Json

/-! ## Some of the fields -/

/-- The dialect on the given fields, and the default dialect on the others.
A table is taken as a whole. -/
def overDefault (dialect : Dialect) (given : List String) : Dialect :=
  let chosen := fun key => if key ∈ given then dialect else glslEs100
  { name := (chosen "name").name
    types := (chosen "types").types
    qualifiers := (chosen "qualifiers").qualifiers
    precisions := (chosen "precisions").precisions
    positionOutput := (chosen "position_output").positionOutput
    colorOutput := (chosen "color_output").colorOutput
    pointSize := (chosen "point_size").pointSize
    fragCoord := (chosen "frag_coord").fragCoord
    pointCoord := (chosen "point_coord").pointCoord
    frontFacing := (chosen "front_facing").frontFacing
    textureSample := (chosen "texture_sample").textureSample
    entryPoint := (chosen "entry_point").entryPoint }

theorem overDefault_nil (dialect : Dialect) :
    dialect.overDefault [] = glslEs100 :=
  rfl

theorem overDefault_congr (dialect : Dialect) {given others : List String}
    (same : ∀ key, key ∈ given ↔ key ∈ others) :
    dialect.overDefault given = dialect.overDefault others := by
  simp only [overDefault, same]

theorem overDefault_memberTexts (dialect : Dialect) :
    dialect.overDefault (dialect.memberTexts.map Prod.fst) = dialect := by
  simp [overDefault, memberTexts]

theorem nodup_memberTexts (dialect : Dialect) :
    (dialect.memberTexts.map Prod.fst).Nodup := by
  simp [memberTexts]

/-! ## Keyword tables -/

section Tables

variable {α : Type} [DecidableEq α] {name : α → String} {all : List α}

/-- The entries of the listed members lie over those that were there. -/
def laid (table start : KeywordTable α) (listed : List α) :
    KeywordTable α :=
  fun member =>
    if member ∈ listed then (table member).or (start member)
    else start member

theorem laid_cons_of_none {table : KeywordTable α} {member : α}
    (missing : table member = none) (start : KeywordTable α)
    (listed : List α) :
    laid table start (member :: listed) = laid table start listed := by
  funext other
  by_cases same : other = member
  case pos =>
    subst same
    simp [laid, missing]
  case neg =>
    simp [laid, same]

theorem laid_cons_of_some {table : KeywordTable α} {member : α}
    {word : String} (present : table member = some word)
    (start : KeywordTable α) (listed : List α) :
    laid table start (member :: listed) =
      laid table (start.set member word) listed := by
  funext other
  by_cases same : other = member
  case pos =>
    subst same
    simp [laid, KeywordTable.set, present]
  case neg =>
    simp [laid, KeywordTable.set, same]

theorem readEntry_quote {member? : String → Option α} {key : String}
    {member : α} (found : member? key = some member)
    (start : KeywordTable α) (word : String) (rest : List Char) :
    readEntry member? start key
        (':' :: ' ' :: ((quote word).toList ++ rest)) =
      .ok (start.set member word, rest) := by
  have colon : ∀ behind, readMark ':' (':' :: behind) = .ok ((), behind) :=
    fun behind => readMark_of_skipBlanks rfl
  have value := (reads_quote word).behind_space rest
  simp only [readEntry, found, colon, bind, Except.bind, value]
  rfl

theorem readsMembers_entries
    (named : ∀ member, named? name all (name member) = some member)
    (table start : KeywordTable α) (listed : List α) :
    ReadsMembers (readEntry (named? name all)) start
      ((table.entries listed).map fun entry =>
        (name entry.1, quote entry.2))
      (laid table start listed) := by
  induction listed generalizing start with
  | nil =>
      exact .nil start
  | cons member listed inductionHypothesis =>
      cases given : table member with
      | none =>
          rw [laid_cons_of_none given, KeywordTable.entries,
            List.filterMap_cons_none (by rw [given]; rfl)]
          exact inductionHypothesis start
      | some word =>
          rw [laid_cons_of_some given, KeywordTable.entries,
            List.filterMap_cons_some (by rw [given]; rfl)]
          exact .cons (readEntry_quote (named member) start word)
            (inductionHypothesis _)

/-- A table that is written is read back as it was, empty or not. -/
theorem reads_tableText
    (named : ∀ member, named? name all (name member) = some member)
    (table : KeywordTable α) :
    Reads (readTable (named? name all)) (tableText name all table).toList
      table := by
  have whole : laid table KeywordTable.empty all = table := by
    funext member
    have listed : member ∈ all := List.mem_of_find?_eq_some (named member)
    simp [laid, KeywordTable.empty, listed]
  have entries := readsMembers_entries named table KeywordTable.empty all
  rw [whole] at entries
  exact reads_objectText entries 1

end Tables

/-! ## Fields -/

variable {dialect : Dialect}

/-- A field that was not read before is read and stored. -/
theorem recordMember_field {α : Type} {key written : String}
    {reader : Reader α} {value : α} {store : Dialect → α → Dialect}
    {seen : List String} {record next : Dialect}
    (found : fields.find? (fun field => field.name == key) =
      some (field key reader store))
    (reads : Reads reader written.toList value) (fresh : key ∉ seen)
    (stored : store record value = next) (rest : List Char) :
    recordMember fields (seen, record) key
        (':' :: ' ' :: (written.toList ++ rest)) =
      .ok ((key :: seen, next), rest) := by
  have colon : ∀ behind, readMark ':' (':' :: behind) = .ok ((), behind) :=
    fun behind => readMark_of_skipBlanks rfl
  have unseen : ¬seen.contains key = true := by
    simpa using fresh
  simp only [recordMember, found, if_neg unseen, colon, bind, Except.bind,
    field, reads.behind_space rest, pure, Except.pure, stored]

/-- A written field joins the fields that were read before it. -/
theorem recordMember_memberTexts {key written : String}
    (among : (key, written) ∈ dialect.memberTexts) {seen : List String}
    (fresh : key ∉ seen) (rest : List Char) :
    recordMember fields (seen, dialect.overDefault seen) key
        (':' :: ' ' :: (written.toList ++ rest)) =
      .ok ((key :: seen, dialect.overDefault (key :: seen)), rest) := by
  simp only [memberTexts, List.mem_cons, List.not_mem_nil, or_false,
    Prod.mk.injEq] at among
  rcases among with ⟨rfl, rfl⟩ | ⟨rfl, rfl⟩ | ⟨rfl, rfl⟩ | ⟨rfl, rfl⟩ |
    ⟨rfl, rfl⟩ | ⟨rfl, rfl⟩ | ⟨rfl, rfl⟩ | ⟨rfl, rfl⟩ | ⟨rfl, rfl⟩ |
    ⟨rfl, rfl⟩ | ⟨rfl, rfl⟩ | ⟨rfl, rfl⟩
  case inr.inl =>
    exact recordMember_field rfl
      (reads_tableText ShaderType.named?_name dialect.types) fresh
      (by simp [overDefault]) rest
  case inr.inr.inl =>
    exact recordMember_field rfl
      (reads_tableText Qualifier.named?_name dialect.qualifiers) fresh
      (by simp [overDefault]) rest
  case inr.inr.inr.inl =>
    exact recordMember_field rfl
      (reads_tableText Precision.named?_name dialect.precisions) fresh
      (by simp [overDefault]) rest
  all_goals
    exact recordMember_field rfl (reads_quote _) fresh
      (by simp [overDefault]) rest

theorem readsMembers_memberTexts {members : List (String × String)}
    (among : members ⊆ dialect.memberTexts)
    (distinct : (members.map Prod.fst).Nodup) (seen : List String)
    (fresh : ∀ member ∈ members, member.1 ∉ seen) :
    ReadsMembers (recordMember fields) (seen, dialect.overDefault seen)
      members
      ((members.map Prod.fst).reverse ++ seen,
        dialect.overDefault ((members.map Prod.fst).reverse ++ seen)) := by
  induction members generalizing seen with
  | nil =>
      exact .nil _
  | cons member others inductionHypothesis =>
      obtain ⟨key, written⟩ := member
      obtain ⟨keyAmong, othersAmong⟩ := List.cons_subset.mp among
      obtain ⟨keyFresh, othersFresh⟩ := List.forall_mem_cons.mp fresh
      obtain ⟨keyOnce, othersDistinct⟩ := List.nodup_cons.mp distinct
      have stillFresh : ∀ other ∈ others, other.1 ∉ key :: seen := by
        intro other isOther known
        rcases List.mem_cons.mp known with same | before
        · have again : other.1 ∈ others.map Prod.fst :=
            List.mem_map_of_mem isOther
          exact keyOnce (same ▸ again)
        · exact othersFresh other isOther before
      have behind :=
        inductionHypothesis othersAmong othersDistinct _ stillFresh
      rw [List.map_cons, List.reverse_cons, List.append_assoc]
      exact .cons (recordMember_memberTexts keyAmong keyFresh) behind

theorem readRecord_objectText {members : List (String × String)}
    (written : members.Subperm dialect.memberTexts) :
    readRecord fields glslEs100 (objectText 0 members).toList =
      .ok (dialect.overDefault (members.map Prod.fst), []) := by
  have distinct : (members.map Prod.fst).Nodup := by
    obtain ⟨chosen, permuted, sublist⟩ := written
    have chosenDistinct :=
      (sublist.map Prod.fst).nodup dialect.nodup_memberTexts
    exact (permuted.map Prod.fst).nodup_iff.mp chosenDistinct
  have reads := readsMembers_memberTexts written.subset distinct []
    (fun _ _ => List.not_mem_nil)
  rw [overDefault_nil] at reads
  obtain ⟨inside, text, members⟩ := readMembers_objectText reads 0
  have all := members []
  rw [List.append_nil] at all
  have opening : skipBlanks ('\x7b' :: inside) = '\x7b' :: inside :=
    skipBlanks_cons_of_not_isBlank rfl _
  rw [text, readRecord, opening]
  simp only [bind, Except.bind, all, pure, Except.pure, List.append_nil]
  rw [overDefault_congr dialect fun key => List.mem_reverse]

/-- The fields of a dialect that are written, any of them and in any order, are
read back, and the others are those of the default dialect. All of them
together are the dialect. -/
theorem ofJson_written (dialect : Dialect) :
    (∀ members : List (String × String),
      members.Subperm dialect.memberTexts →
        ofJson (objectText 0 members) =
          .ok (dialect.overDefault (members.map Prod.fst))) ∧
      ofJson dialect.toJson = .ok dialect := by
  have parts : ∀ members : List (String × String),
      members.Subperm dialect.memberTexts →
        ofJson (objectText 0 members) =
          .ok (dialect.overDefault (members.map Prod.fst)) := by
    intro members written
    rw [ofJson, readAll, readRecord_objectText written]
    rfl
  refine ⟨parts, ?_⟩
  have whole := parts dialect.memberTexts (List.Subperm.refl _)
  rw [overDefault_memberTexts] at whole
  exact whole

/-- An empty table and a name with characters that are escaped. -/
theorem ofJson_written_sparse :
    let dialect : Dialect :=
      { glslEs100 with name := "\"\x01é", types := KeywordTable.empty }
    let members : List (String × String) :=
      [ ("types", "\x7b\x7d"), ("name", "\"\\\"\\u0001é\"") ]
    members.Subperm dialect.memberTexts ∧
      ofJson (objectText 0 members) =
          .ok (dialect.overDefault ["types", "name"]) ∧
        ofJson dialect.toJson = .ok dialect := by
  intro dialect members
  have table : tableText ShaderType.name ShaderType.all dialect.types =
      "\x7b\x7d" := rfl
  have name : quote dialect.name = "\"\\\"\\u0001é\"" := by decide
  have written : members.Subperm dialect.memberTexts := by
    apply List.subperm_of_subset (by decide)
    simp [members, memberTexts, table, name]
  exact ⟨written, (ofJson_written dialect).1 members written,
    (ofJson_written dialect).2⟩

end Dialect

end Shaderwright
