import DocStore.Join
import DocStore.Outcome
import DocStore.Pipeline.Form
import DocStore.Search.Clause

/-!
# From clauses and joins to pipelines

The constraints of a clause become conditions with text values, and each join of the searched
collection a lookup. Two joins into one right collection would fill the same field: the first keeps
it, and the later ones are left out with a warning. So are duplicates in the clause.
-/

namespace DocStore.Search

def checkField (field : String) : Except ClauseFault Unit :=
  if field = "" then .error .emptyField
  else if Text.startsWith field '$' then .error (.operatorField field)
  else if Text.contains field '\x00' then .error .nulInField
  else .ok ()

/-- Constraints as conditions. -/
def conditions (clause : Clause) : List (String × Json) :=
  clause.constraints.map fun (field, value) => (field, .str value)

def lookupOfJoin (join : Join) : Lookup where
  collection := join.right
  localField := join.leftField
  foreignField := join.rightField
  output := join.output

def compilerLine (level : Level) (message : String) : Line := ⟨level, .compiler, message⟩

def duplicateWarning (field : String) : Line :=
  compilerLine .warn s!"Duplicate fields found in the search clause for field '{field}'"

/-- The warning for a join whose output is filled by the lookup `kept`. -/
def skippedWarning (join : Join) (kept : Lookup) : Line :=
  let left := s!"{join.left.text}.{join.leftField}"
  let right := s!"{join.right.text}.{join.rightField}"
  let filler := s!"{kept.collection.text}.{kept.foreignField}"
  compilerLine .warn
    s!"Join {left} -> {right} skipped: '{join.output}' is already filled from {filler}"

/-- Adds the lookup of a join to those before it, or the warning that it is skipped. -/
def addJoin (before : List Lookup × List Line) (join : Join) : List Lookup × List Line :=
  let (lookups, warnings) := before
  match lookups.find? (·.output = join.output) with
  | some kept => (lookups, warnings ++ [skippedWarning join kept])
  | none => (lookups ++ [lookupOfJoin join], warnings)

def compiledLine (target : CollectionName) (pipeline : Pipeline) : Line :=
  compilerLine .debug s!"Compiled pipeline for '{target.text}': {pipeline.toJson.render}"

/-- The pipeline that searches `target`. -/
def compile (target : CollectionName) (clause : Clause) (joins : Joins) : Report Pipeline :=
  match clause.constraints.forM fun (field, _) => checkField field with
  | .error fault => { result := .error (.invalidClause fault), lines := [] }
  | .ok () =>
    let (lookups, skipped) := (joins.of target).foldl addJoin ([], [])
    let pipeline : Pipeline := { conditions := conditions clause, lookups }
    { result := .ok pipeline
      lines := clause.duplicates.map duplicateWarning ++ skipped
        ++ [compiledLine target pipeline] }

end DocStore.Search
