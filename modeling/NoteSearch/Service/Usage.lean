-- SUMMARY: What the service tells about its own use: popular queries, trending queries and totals.
import NoteSearch.Calendar.Timestamp

/-!
# Usage

The numbers that the service keeps about the searches of all users.
-/

namespace NoteSearch

open Calendar

structure PopularQuery where
  text : String
  searchCount : UInt32
  lastSearchedAt : Option Timestamp := none
  averageResults : Option UInt32 := none
  deriving DecidableEq, Inhabited

/-- Where the use of a query is heading. -/
inductive Trend where
  | up
  | down
  | stable
  deriving DecidableEq, Inhabited

namespace Trend

def toText : Trend → String
  | up => "up"
  | down => "down"
  | stable => "stable"

def ofText? : String → Option Trend
  | "up" => some up
  | "down" => some down
  | "stable" => some stable
  | _ => none

end Trend

/-- A query whose use is changing. -/
structure TrendingQuery where
  text : String
  searchCount : UInt32
  recentCount : UInt32
  trend : Trend
  lastSearchedAt : Option Timestamp := none
  deriving DecidableEq, Inhabited

/-- Totals over all searches. -/
structure UsageStats where
  totalSearches : UInt64 := 0
  uniqueQueries : UInt64 := 0
  averageResults : Option Float := none
  mostSearched : Option String := none
  searchesToday : UInt64 := 0
  searchesThisWeek : UInt64 := 0
  deriving Inhabited

end NoteSearch
