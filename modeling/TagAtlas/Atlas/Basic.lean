import TagAtlas.Config.Basic
import TagAtlas.Insight.Basic

/-!
# From surveys to graphs and insights

What the settings make of a survey: its dependency graph, and the insights that graph and survey
give.
-/

namespace TagAtlas

namespace SurveySettings

/-- The graph of a survey. Its cycles are left out when they are not wanted. -/
def graphOf (settings : SurveySettings) (s : Survey) : DependencyGraph :=
  let g := DependencyGraph.ofSurvey s
  if settings.findCycles then g else { g with cycles := [] }

/-- The insights into a survey, or none when they are not wanted. -/
def insightsOf (settings : SurveySettings) (s : Survey) (g : DependencyGraph) : Insights :=
  if settings.findPatterns then .ofSurvey s g else .none

end SurveySettings

/-- A survey with the graph and the insights it gives. -/
structure Atlas where
  survey : Survey
  graph : DependencyGraph
  insights : Insights

def Atlas.ofSurvey (settings : SurveySettings) (s : Survey) : Atlas :=
  let g := settings.graphOf s
  ⟨s, g, settings.insightsOf s g⟩

end TagAtlas
