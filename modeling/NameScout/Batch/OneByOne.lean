import NameScout.Batch.Outcome
import NameScout.Survey

namespace NameScout.Batch

variable {σ : Type} [Clock σ]

def checkFrom (survey : Survey σ) (profile : Profile) :
    List String → StateM σ (List Report × Option Halt)
  | [] => return ([], none)
  | name :: names => do
      match ← (survey.check name profile).run with
      | .error halt => return ([], some halt)
      | .ok results =>
          let report := Report.ofResults name results (Clock.now (← get))
          let (reports, halt) ← checkFrom survey profile names
          return (report :: reports, halt)

def oneByOne (survey : Survey σ) (profile : Profile) (names : List String) :
    StateM σ Outcome := do
  let nothing : List (Option Report) := names.map fun _ => none
  let (reports, halt) ← checkFrom survey profile names
  match halt with
  | some (.crashed text) =>
      return { results := nothing, error := some (.other (.workerAborted text)) }
  | some (.failed failure) =>
      return { results := reports.map some ++ nothing.drop reports.length, error := some failure }
  | none => return { results := reports.map some, error := none }

end NameScout.Batch
