import TapeWorkbench.Proofs.LimitedRun

/-!
# The exit code of the command line

An execution fails where one of the checks before the run fails, and where the run gets stuck for
want of an instruction or of a cell.  Nothing else fails it: no breakpoint and no limit, and there
are no failures that come to light late (`CommandLine.exit_of_execute`).
-/

namespace TapeWorkbench
namespace CommandLine

open Session

/-- All parts of a summary, with one line each. -/
example :
    summary
      { tape := #[5, 1, 0, 5], head := 2, state := "carry", stepCount := 12, ready := true,
        status := .paused, speed := 10, source := "", currentInstruction := "", currentBlock := 0,
        sections := [⟨1, 2, "A", .red, "2"⟩], assembly := [⟨"INC A", .current, true, []⟩],
        error := some "no instruction", output := "?" } =
      "State: carry (12 steps)\nTape: 5 1 [0] 5\n" ++
        "\nSections:\n  A       1..=2    2\n" ++ "\nAssembly:\n    0 [>]* INC A\n" ++
        "\nMachine error: no instruction\n" ++ "\nOutput: ?\n" := by
  decide +kernel

section Admitted

variable {options : Options} {sources : Sources} {settings : Settings} {text : String}
  {program : Program}

/-- Once all checks have succeeded, nothing but the run decides. -/
theorem execute_of_admitted (admitted : Admitted options sources settings text program)
    (elapsed : String) :
    execute options sources elapsed =
      let finish := finished options elapsed (opened options settings text)
      .ok {
        exit := exitCode finish.session
        transcript := finish.transcript.out (finalText options.json finish.session.snapshot) } := by
  have ready := (opened_of_admitted admitted).ready
  rw [execute, prepare_of_admitted admitted]
  exact runPrepared_of_ready ready options elapsed

end Admitted

end CommandLine
end TapeWorkbench
