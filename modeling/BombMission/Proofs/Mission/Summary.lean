import BombMission.Proofs.Mission.Failure
import BombMission.Proofs.Outline.References
import BombMission.Random.SplitMix
import BombMission.Report.Compilation

/-!
# Summaries of failed compilations

A summary has one row for each message that it shows, and one for the number of those it leaves out,
as long as no message that is shown has rows of its own. A message has, exactly when the id or the
profile name that it repeats from the text holds a newline: names are repeated as they stand.

## Main results

* `Diagnostic.newline_mem_message_iff`: the messages with more than one row.
* `CompileError.lines_summary`: the rows of a summary, whatever the messages are.
* `infix_of_mem_read`: names in messages are pieces of the pools of the text.
* `compile_summary_rows`: when the summary of a text has one row for each message.
-/

namespace BombMission

open Text

/-! ### Messages -/

namespace Diagnostic

/-- The id or the profile name that a message repeats from the text. -/
def quotedName? : Diagnostic → Option String
  | unknownModule id | disabledModule id => some id
  | unknownProfile name | emptyProfile name => some name
  | _ => none

theorem isAboutReference_of_quotedName? {problem : Diagnostic} {name : String}
    (quoted : problem.quotedName? = some name) : problem.isAboutReference = true := by
  cases problem <;> first | rfl | cases quoted

theorem endsRow_onBomb {front : String} (ends : EndsRow front.toList) (bomb : Option Nat) :
    EndsRow (front ++ onBomb bomb).toList := by
  cases bomb with
  | none => simpa [onBomb] using ends
  | some number => exact endsRow_append _ (endsRow_append _ (endsRow_toString number))

/-- No message ends with the text that it repeats. -/
theorem endsRow_message (problem : Diagnostic) : EndsRow problem.message.toList := by
  -- a message ends with words of its own or with the number of a bomb
  cases problem with
  | noSolvableModules bomb => exact endsRow_onBomb (by decide +kernel) bomb
  | tooManyModules count limit bomb =>
    exact endsRow_onBomb (endsRow_append _ (by decide +kernel)) bomb
  | unknownModule | disabledModule | unknownProfile | emptyProfile | uniqueShortfall | duplicate
  | duplicateForMission | insideGroup => exact endsRow_append _ (by decide +kernel)
  | invalidValue setting => cases setting <;> decide +kernel
  | _ => decide +kernel

theorem newline_not_mem_number (front back : String) (frontRow : '\n' ∉ front.toList)
    (backRow : '\n' ∉ back.toList) (n : Nat) : '\n' ∉ (front ++ toString n ++ back).toList := by
  rw [newline_mem_around frontRow backRow]
  exact newline_not_mem_toString n

theorem newline_not_mem_onBomb (bomb : Option Nat) : '\n' ∉ (onBomb bomb).toList := by
  cases bomb with
  | none => decide
  | some number => exact newline_not_mem_append (by decide) (newline_not_mem_toString number)

/-- A message of its own words only is a single row. -/
theorem newline_not_mem_message {problem : Diagnostic} (own : problem.quotedName? = none) :
    '\n' ∉ problem.message.toList := by
  -- what stands between the words is a number, or the label of a setting
  cases problem with
  | unknownModule | disabledModule | unknownProfile | emptyProfile => cases own
  | noSolvableModules bomb =>
    exact newline_not_mem_append (by decide +kernel) (newline_not_mem_onBomb bomb)
  | tooManyModules count limit bomb =>
    have counted := newline_not_mem_number "Too many modules for any bomb casing (" " > "
      (by decide +kernel) (by decide) count
    have bounded := newline_not_mem_number _ ")" counted (by decide) limit
    exact newline_not_mem_append bounded (newline_not_mem_onBomb bomb)
  | uniqueShortfall requested found =>
    have asked := newline_not_mem_number "Requested " " unique modules but only found "
      (by decide +kernel) (by decide +kernel) requested
    exact newline_not_mem_number _ " valid modules" asked (by decide +kernel) found
  | duplicate setting | duplicateForMission setting | insideGroup setting
  | invalidValue setting =>
    cases setting <;> decide +kernel
  | _ => decide +kernel

/-- A message has rows of its own when the name it repeats has. -/
theorem newline_mem_message_iff {problem : Diagnostic} :
    '\n' ∈ problem.message.toList ↔
      ∃ name, problem.quotedName? = some name ∧ '\n' ∈ name.toList := by
  cases quoted : problem.quotedName? with
  | none => simp [newline_not_mem_message quoted]
  | some name =>
    simp only [Option.some.injEq, exists_eq_left']
    cases problem with
    | unknownModule | disabledModule | unknownProfile | emptyProfile =>
      cases quoted
      exact newline_mem_around (by decide +kernel) (by decide +kernel) name
    | _ => cases quoted

end Diagnostic

/-! ### Rows -/

namespace CompileError

variable {error : CompileError} {limit : Nat}

/-- One row for each message up to the limit, and one for the number of the others. -/
def summaryRows (error : CompileError) (limit : Nat) : List String :=
  (error.diagnostics.take limit).map Diagnostic.message ++
    if limit < error.diagnostics.length then
      [toString (error.diagnostics.length - limit) ++ " more"]
    else []

theorem summary_eq : error.summary limit = "\n".intercalate (error.summaryRows limit) := by
  simp only [summary, summaryRows, Nat.sub_pos_iff_lt]
  split <;> simp

theorem length_summaryRows : (error.summaryRows limit).length =
    min limit error.diagnostics.length + if limit < error.diagnostics.length then 1 else 0 := by
  simp only [summaryRows, List.length_append, List.length_map, List.length_take]
  split <;> rfl

theorem mem_summaryRows {row : String} (member : row ∈ error.summaryRows limit) :
    (∃ problem ∈ error.diagnostics.take limit, row = problem.message) ∨
      ∃ hidden : Nat, row = toString hidden ++ " more" := by
  rcases List.mem_append.1 member with shown | hidden
  · obtain ⟨problem, shown, message⟩ := List.mem_map.1 shown
    exact .inl ⟨problem, shown, message.symm⟩
  · split at hidden
    · exact .inr ⟨_, List.mem_singleton.1 hidden⟩
    · cases hidden

theorem endsRow_of_mem_summaryRows : ∀ row ∈ error.summaryRows limit, EndsRow row.toList := by
  intro row member
  rcases mem_summaryRows member with ⟨problem, -, rfl⟩ | ⟨hidden, rfl⟩
  · exact problem.endsRow_message
  · exact endsRow_append _ (by decide)

/-- The names that the messages of a summary repeat are all of one row. -/
def ShowsPlainNames (error : CompileError) (limit : Nat) : Prop :=
  ∀ problem ∈ error.diagnostics.take limit, ∀ name, problem.quotedName? = some name →
    '\n' ∉ name.toList

theorem showsPlainNames_iff :
    error.ShowsPlainNames limit ↔ ∀ row ∈ error.summaryRows limit, '\n' ∉ row.toList := by
  constructor
  · intro plain row member newline
    rcases mem_summaryRows member with ⟨problem, shown, rfl⟩ | ⟨hidden, rfl⟩
    · obtain ⟨name, quoted, inName⟩ := Diagnostic.newline_mem_message_iff.1 newline
      exact plain problem shown name quoted inName
    · exact newline_not_mem_append (newline_not_mem_toString hidden)
        (by decide) newline
  · intro single problem shown name quoted newline
    have row : problem.message ∈ error.summaryRows limit :=
      List.mem_append_left _ (List.mem_map_of_mem shown)
    exact single _ row (Diagnostic.newline_mem_message_iff.2 ⟨name, quoted, newline⟩)

theorem lines_summary : lines (error.summary limit) = (error.summaryRows limit).flatMap lines := by
  rw [summary_eq, lines_intercalate endsRow_of_mem_summaryRows]

theorem lines_summary_eq_iff :
    lines (error.summary limit) = error.summaryRows limit ↔ error.ShowsPlainNames limit := by
  rw [summary_eq, lines_intercalate_eq_iff endsRow_of_mem_summaryRows, showsPlainNames_iff]

theorem length_problemRows_iff (colored : Bool) :
    (Report.problemRows colored error).length = (error.summaryRows shownProblems).length ↔
      error.ShowsPlainNames shownProblems := by
  rw [Report.problemRows, List.length_map, summary_eq,
    length_lines_intercalate_eq_iff endsRow_of_mem_summaryRows, showsPlainNames_iff]

end CompileError

/-! ### Names -/

theorem infix_of_mem_idsOf {body id : String} (member : id ∈ Reference.idsOf body) :
    id.toList <:+: body.toList := by
  obtain ⟨piece, piecewise, rfl⟩ := List.mem_map.1 member
  obtain ⟨front, back, whole, -, -⟩ := (isTrimmed_trimBlanks piece).around
  rw [String.toList_ofList]
  exact List.IsInfix.trans ⟨front, back, whole.symm⟩ (infix_of_mem_splitOn piecewise)

theorem mem_of_reportsIds {catalog : Catalog} {ids : List String} {problems : List Diagnostic}
    (reports : ReportsIds catalog ids problems) {problem : Diagnostic} (member : problem ∈ problems)
    {name : String} (quoted : problem.quotedName? = some name) : name ∈ ids := by
  induction reports with
  | nil => cases member
  | known _ _ ih => exact List.mem_cons_of_mem _ (ih member)
  | disabled _ _ ih | unknown _ _ ih =>
    rcases List.mem_cons.1 member with rfl | later
    · cases quoted
      exact List.mem_cons_self
    · exact List.mem_cons_of_mem _ (ih later)

theorem NamesProfile.name_infix {kind : ModuleKind} {body name : String}
    (names : NamesProfile kind body name) : name.toList <:+: body.toList := by
  obtain ⟨word, -, whole⟩ := names
  exact whole ▸ (List.suffix_append word name.toList).isInfix

/-- A name in a message is a part of the pool that the message is about. -/
theorem infix_of_mem_read {ctx : Context} {body : String} {problem : Diagnostic}
    (member : problem ∈ (Reference.read ctx body).2) {name : String}
    (quoted : problem.quotedName? = some name) : name.toList <:+: body.toList := by
  have reports : ReportsReference ctx body (Reference.read ctx body).2 := reportsReference_iff.2 rfl
  generalize (Reference.read ctx body).2 = problems at member reports
  cases reports with
  | aggregate | profile => cases member
  | unknownProfile names _ | emptyProfile names _ _ =>
    obtain rfl := List.mem_singleton.1 member
    cases quoted
    exact names.name_infix
  | ids _ _ lists reports =>
    have listed := mem_of_reportsIds reports member quoted
    rw [← listsIds_iff.1 lists] at listed
    exact infix_of_mem_idsOf listed

variable {σ : Type} [RandomSource σ]

/-- A name in the message of a failed text is a part of one of its pools. -/
theorem exists_pool_of_quotedName? {ctx : Context} {text : String} {source : σ}
    {error : CompileError} (fails : (compile ctx text source).1 = .error error)
    {problem : Diagnostic} (member : problem ∈ error.diagnostics) {name : String}
    (quoted : problem.quotedName? = some name) :
    ∃ pool ∈ acceptedPools ((scanTokens text).map Token.kind), name.toList <:+: pool.body.toList := by
  obtain ⟨-, all⟩ := (outlineText_accounted ctx text source).toMission_eq_error_iff.1 fails
  rw [all, Outline.problems_eq] at member
  rcases List.mem_append.1 member with read | refused
  · have kept : problem ∈ (readMissionText ctx text source).diagnostics.filter
        Diagnostic.isAboutReference :=
      List.mem_filter.2 ⟨read, Diagnostic.isAboutReference_of_quotedName? quoted⟩
    rw [readMissionText, filter_diagnostics_readTokens] at kept
    obtain ⟨pool, accepted, member⟩ := List.mem_flatMap.1 kept
    exact ⟨pool, accepted, infix_of_mem_read member quoted⟩
  · -- a refused rule seed repeats nothing from the text
    split at refused
    · obtain rfl := List.mem_singleton.1 refused
      cases quoted
    · cases refused

/-- The summary of a failed text has one row for each message that it shows, and one for the number of
the others, exactly when no id or profile name in these messages holds a newline. Then the report has
so many rows as well. All names are parts of the pools of the text. -/
theorem compile_summary_rows (ctx : Context) (text : String) (source : σ) (error : CompileError)
    (fails : (compile ctx text source).1 = .error error) :
    (∀ limit, lines (error.summary limit) = error.summaryRows limit ↔
      error.ShowsPlainNames limit) ∧
    (∀ colored, (Report.problemRows colored error).length =
        min CompileError.shownProblems error.diagnostics.length +
          (if CompileError.shownProblems < error.diagnostics.length then 1 else 0) ↔
      error.ShowsPlainNames CompileError.shownProblems) ∧
    ∀ problem ∈ error.diagnostics, ∀ name, problem.quotedName? = some name →
      ∃ pool ∈ acceptedPools ((scanTokens text).map Token.kind),
        name.toList <:+: pool.body.toList := by
  refine ⟨fun limit => CompileError.lines_summary_eq_iff, fun colored => ?_, ?_⟩
  · rw [← CompileError.length_summaryRows]
    exact CompileError.length_problemRows_iff colored
  · intro problem member name quoted
    exact exists_pool_of_quotedName? fails member quoted

/-- Two bad ids and a bomb with nothing to solve, of which one message is shown. -/
theorem compile_summary_rows_ids :
    (compile {} "Foo,Bar" (SplitMix.ofSeed 0)).1 = .error
      { diagnostics := [.unknownModule "Foo", .unknownModule "Bar", .noSolvableModules none] } ∧
    lines ((CompileError.mk [.unknownModule "Foo", .unknownModule "Bar",
      .noSolvableModules none]).summary 1) = ["'Foo' is an unknown module ID.", "2 more"] := by
  have fails : (compile {} "Foo,Bar" (SplitMix.ofSeed 0)).1 = .error
      { diagnostics := [.unknownModule "Foo", .unknownModule "Bar", .noSolvableModules none] } := by
    decide +kernel
  obtain ⟨rows, -, -⟩ := compile_summary_rows _ _ _ _ fails
  refine ⟨fails, ((rows 1).2 ?_).trans (by decide +kernel)⟩
  intro problem shown name quoted
  obtain rfl := List.mem_singleton.1 shown
  cases quoted
  decide

/-- An id in quotes may hold a newline, which its message repeats. -/
theorem summary_breaks_message :
    (compile {} "\"a\nb\"" (SplitMix.ofSeed 0)).1 = .error
      { diagnostics := [.unknownModule "a\nb", .noSolvableModules none] } ∧
    lines ((CompileError.mk [.unknownModule "a\nb", .noSolvableModules none]).summary 5) =
      ["'a", "b' is an unknown module ID.", "No solvable modules"] ∧
    lines ((CompileError.mk [.unknownModule "a\nb", .noSolvableModules none]).summary 5) ≠
      (CompileError.mk [.unknownModule "a\nb", .noSolvableModules none]).summaryRows 5 ∧
    (Report.problemRows false
      { diagnostics := [.unknownModule "a\nb", .noSolvableModules none] }).length = 3 := by
  refine ⟨by decide +kernel, by decide +kernel, by decide +kernel, by decide +kernel⟩

end BombMission
