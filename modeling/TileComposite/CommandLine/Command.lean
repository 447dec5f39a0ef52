import TileComposite.CommandLine.Arguments
import TileComposite.CommandLine.Usage
import TileComposite.Job.Depot
import TileComposite.Job.Report

/-! The command: it reads its arguments, makes the configuration and runs the job on
the plate that the url names. An ending says what is printed and what the exit
status is. -/
namespace TileComposite.CommandLine

/-- How the command ends. -/
inductive Ending where
  | help
  | done (result : JobResult) (json : Bool)
  | failed (cause : Failure)

namespace Ending

/-- Failures that the command reports: those of a job, and those of the system. -/
def isReported (e : Failure) : Bool := e.category.isJob || e.category.isSystem

/-- The exit status. A failure that is not reported leaves none. -/
def status? : Ending → Option Nat
  | help => some 0
  | done .. => some 0
  | failed cause => if isReported cause then some 1 else none

/-- What is printed. A wrong argument is answered with the usage. -/
def output (elapsed : Elapsed) : Ending → String
  | help => CommandLine.help
  | done result json =>
    if json then (result.toValue elapsed).json 0 ++ "\n" else result.lines elapsed
  | failed cause =>
    if cause.category = .argument then cause.message ++ "\n" ++ usage else ""

/-- What is printed as an error. -/
def errors : Ending → String
  | failed cause =>
    if isReported cause ∧ cause.category ≠ .argument then "Error: " ++ cause.message ++ "\n"
    else ""
  | _ => ""

end Ending

/-- Runs the command. The plate's session comes with the ending once the plate has
been opened. -/
def run (d : Depot η σ) (plate : Plate σ) (files : Files) (texts : List String) :
    Ending × Option (η × Session σ) :=
  match Arguments.parse texts with
  | .error .help => (.help, none)
  | .error (.misuse cause) => (.failed (.misuse cause), none)
  | .ok a =>
    match a.config files with
    | .error e => (.failed e, none)
    | .ok c =>
      match d.runByUrl plate c with
      | (.error e, opened) => (.failed e, opened)
      | (.ok result, opened) => (.done result a.json, opened)

end TileComposite.CommandLine
