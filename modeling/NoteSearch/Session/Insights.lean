-- SUMMARY: The panel of usage numbers: loads of three parts that may overlap.
import NoteSearch.Service.Call

/-!
# Insights

The panel shows popular queries, trending queries and totals. A load asks for the three parts at
once and stores them together when the last has come; a part that fails stays empty.
-/

namespace NoteSearch

/-- A load under way, with the parts that have come. -/
structure InsightsLoad where
  number : Nat
  popular : Option (List PopularQuery) := none
  trending : Option (List TrendingQuery) := none
  stats : Option (Option UsageStats) := none
  deriving Inhabited

structure Insights where
  popular : List PopularQuery := []
  trending : List TrendingQuery := []
  stats : Option UsageStats := none
  loading : Bool := false
  /-- The loads under way, in the order of their start. -/
  loads : List InsightsLoad := []
  started : Nat := 0
  deriving Inhabited

inductive InsightsPart where
  | popular (r : Except Failure (List PopularQuery))
  | trending (r : Except Failure (List TrendingQuery))
  | stats (r : Except Failure UsageStats)

namespace InsightsLoad

def store (l : InsightsLoad) : InsightsPart → InsightsLoad
  | .popular (.ok v) => { l with popular := some v }
  | .popular (.error _) => { l with popular := some [] }
  | .trending (.ok v) => { l with trending := some v }
  | .trending (.error _) => { l with trending := some [] }
  | .stats (.ok v) => { l with stats := some (some v) }
  | .stats (.error _) => { l with stats := some none }

end InsightsLoad

namespace Insights

/-- How many queries the panel lists. -/
def listLimit : UInt32 := 10

/-- The number of days over which a trend is judged. -/
def trendDays : UInt32 := 7

def begin (p : Insights) : Insights :=
  { p with
    loading := true
    loads := p.loads ++ [{ number := p.started }]
    started := p.started + 1 }

/-- Shows a load if all of its parts have come. -/
def finish? (p : Insights) (l : InsightsLoad) : Option Insights :=
  match l.popular, l.trending, l.stats with
  | some popular, some trending, some stats =>
    some { p with popular, trending, stats, loading := false
                  loads := p.loads.filter fun m => m.number != l.number }
  | _, _, _ => none

/-- Takes a part of a load. The second part of the answer says whether the load is finished. -/
def receive (p : Insights) (number : Nat) (part : InsightsPart) : Insights × Bool :=
  match p.loads.find? fun l => l.number == number with
  | none => (p, false)
  | some l =>
    let l := l.store part
    match p.finish? l with
    | some p => (p, true)
    | none => ({ p with loads := p.loads.map fun m => if m.number = number then l else m }, false)

end Insights

end NoteSearch
