import TrigramSieve.Analysis.Event
import TrigramSieve.Main
import TrigramSieve.Proofs.AnalysisAttested
import TrigramSieve.Proofs.EmptyWord
import TrigramSieve.Proofs.NormalForm
import TrigramSieve.Proofs.Verdicts
import TrigramSieve.Proofs.BoundedEnds
import TrigramSieve.Proofs.BoundedFacts
import TrigramSieve.Proofs.DeadPatterns
import TrigramSieve.Proofs.Spelling
import TrigramSieve.Proofs.Mirror
import TrigramSieve.Proofs.BoundsClosure
import TrigramSieve.Proofs.AnalysisFailures
import TrigramSieve.Proofs.ListedClasses
import TrigramSieve.Proofs.CutEnds
import TrigramSieve.Proofs.EmptyParts
import TrigramSieve.Proofs.FlatImplication
import TrigramSieve.Proofs.SharedTrigrams
import TrigramSieve.Proofs.SelfCombination
import TrigramSieve.Proofs.Commutation
import TrigramSieve.Proofs.RenderedQueries
