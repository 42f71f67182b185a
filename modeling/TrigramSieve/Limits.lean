/-! Bounds on what the analysis of a pattern keeps track of. -/

namespace TrigramSieve

structure Limits where
  /-- The largest set of complete matches that is kept. Three letters in either case, eight words,
  are already too many. -/
  maxExact : Nat := 7
  /-- The largest set of possible beginnings, or endings, that is kept. -/
  maxSet : Nat := 20
  /-- A larger class of characters counts as any character. -/
  maxClass : Nat := 100

end TrigramSieve
