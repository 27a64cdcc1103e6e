-- SUMMARY: The JSON form of usage numbers.
import NoteSearch.Wire.Facets

/-!
# JSON form of usage numbers
-/

namespace NoteSearch.Wire

open Json Calendar

def popularQuery : Reader PopularQuery := fun t => do
  let [text, count, lastSearchedAt, average] ←
    t.fields? ["query_text", "search_count", "last_searched_at", "avg_result_count"] 0 | none
  let text ← Reader.required Reader.string text
  let searchCount ← Reader.required Reader.uint32 count
  let lastSearchedAt ← Reader.optional timestamp lastSearchedAt
  let averageResults ← Reader.optional Reader.uint32 average
  some { text, searchCount, lastSearchedAt, averageResults }

def trendingQuery : Reader TrendingQuery := fun t => do
  let [text, count, recent, direction, lastSearchedAt] ←
    t.fields? ["query_text", "search_count", "recent_search_count", "trend_direction",
      "last_searched_at"] 0 | none
  let text ← Reader.required Reader.string text
  let searchCount ← Reader.required Reader.uint32 count
  let recentCount ← Reader.required Reader.uint32 recent
  let trend ← Reader.required trend direction
  let lastSearchedAt ← Reader.optional timestamp lastSearchedAt
  some { text, searchCount, recentCount, trend, lastSearchedAt }

def usageStats : Reader UsageStats := fun t => do
  let [total, unique, average, mostSearched, today, week] ←
    t.fields? ["total_searches", "unique_queries", "avg_results_per_search",
      "most_searched_query", "searches_today", "searches_this_week"] 0 | none
  let totalSearches ← Reader.required Reader.uint64 total
  let uniqueQueries ← Reader.required Reader.uint64 unique
  let averageResults ← Reader.optional Reader.float average
  let mostSearched ← Reader.optional Reader.string mostSearched
  let searchesToday ← Reader.withDefault Reader.uint64 0 today
  let searchesThisWeek ← Reader.withDefault Reader.uint64 0 week
  some
    { totalSearches, uniqueQueries, averageResults, mostSearched, searchesToday
      searchesThisWeek }

end NoteSearch.Wire
