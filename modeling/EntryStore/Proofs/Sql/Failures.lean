import EntryStore.Sql.Failure

/-!
# Failures and result codes

A result code of the database refines one of the first 256, its primary code.  A failure of the
database is reported under the class of its own code, so that the refinements of a code that has a
class of its own are reported as any other failure.
-/

namespace EntryStore.Sql.Failure

/-- The code that a result code refines. -/
def primaryCode (code : Nat) : Nat := code % 256

/-- A failure is reported under the class of a result code, in its own words. -/
structure ReportedAs (failure : Failure) (code : Nat) : Prop where
  timeout : failure.toError = .timeout failure.message ↔ code ∈ waitingCodes
  connection : failure.toError = .connection failure.message ↔ code = cannotOpenCode
  backend : failure.toError = .backend failure.message ↔
    code ∉ waitingCodes ∧ code ≠ cannotOpenCode

variable {failure : Failure} {code other : Nat}

theorem cannotOpenCode_not_mem : cannotOpenCode ∉ waitingCodes := by decide

/-- A failure of the database is reported under the class of its own code. -/
theorem reportedAs_code (code : Nat) (text : String) :
    (database code text).ReportedAs code := by
  by_cases waits : code ∈ waitingCodes
  · have differs : code ≠ cannotOpenCode := by
      rintro rfl
      exact cannotOpenCode_not_mem waits
    constructor <;> simp [toError, waits, differs]
  · by_cases closed : code = cannotOpenCode
    · constructor <;> simp [toError, closed, cannotOpenCode_not_mem]
    · constructor <;> simp [toError, waits, closed]

/-- Codes under which one failure is reported are of one class. -/
theorem ReportedAs.iff_same (reported : failure.ReportedAs code) :
    failure.ReportedAs other ↔ (code ∈ waitingCodes ↔ other ∈ waitingCodes) ∧
      (code = cannotOpenCode ↔ other = cannotOpenCode) := by
  constructor
  · intro reported'
    exact ⟨reported.timeout.symm.trans reported'.timeout,
      reported.connection.symm.trans reported'.connection⟩
  · rintro ⟨waiting, closed⟩
    exact ⟨reported.timeout.trans waiting, reported.connection.trans closed,
      reported.backend.trans (and_congr (not_congr waiting) (not_congr closed))⟩

/-- The class of a code is that of its primary code exactly if the code is primary itself, or
refines one without a class of its own. -/
theorem same_class_iff (code : Nat) :
    ((code ∈ waitingCodes ↔ primaryCode code ∈ waitingCodes) ∧
        (code = cannotOpenCode ↔ primaryCode code = cannotOpenCode)) ↔
      code < 256 ∨ primaryCode code ∉ waitingCodes ∧ primaryCode code ≠ cannotOpenCode := by
  simp only [primaryCode, waitingCodes, cannotOpenCode, List.mem_cons, List.not_mem_nil, or_false]
  omega

/-- A failure of the database is reported with the text of the driver, under the class of its code.
That is the class of the primary code exactly if the code is primary itself, or refines one without
a class of its own. -/
theorem database_reported (code : Nat) (text : String) :
    (database code text).ReportedAs code ∧
      (∃ words, (database code text).message = words ++ text) ∧
      ((database code text).ReportedAs (primaryCode code) ↔
        code < 256 ∨ primaryCode code ∉ waitingCodes ∧ primaryCode code ≠ cannotOpenCode) :=
  ⟨reportedAs_code code text, ⟨_, rfl⟩,
    (reportedAs_code code text).iff_same.trans (same_class_iff code)⟩

/-- A code that refines one of contention is reported as if the statement had been refused. -/
theorem contention_misreported :
    primaryCode 261 ∈ waitingCodes ∧
      (database 261 "database is locked").toError =
        .backend "error returned from database: (code: 261) database is locked" ∧
      ¬ (database 261 "database is locked").ReportedAs (primaryCode 261) := by
  have refused : (database 261 "database is locked").toError =
      .backend "error returned from database: (code: 261) database is locked" := by decide
  refine ⟨by decide, refused, fun reported => ?_⟩
  have waited := reported.timeout.mpr (by decide)
  cases refused.symm.trans waited

end EntryStore.Sql.Failure
