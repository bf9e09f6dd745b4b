import CodePager.Main
import CodePager.Proofs.Dialogue
import CodePager.Proofs.Fetching
import CodePager.Proofs.Reads
import CodePager.Proofs.KeySeparation
import CodePager.Proofs.CacheInvariant
import CodePager.Proofs.Eviction
import CodePager.Proofs.Paging
import CodePager.Proofs.Joining
import CodePager.Proofs.History
import CodePager.Proofs.Freshness
import CodePager.Proofs.PageWalk
import CodePager.Proofs.Provenance
import CodePager.Proofs.Agreement
import CodePager.Proofs.Interleaving
import CodePager.Proofs.LastSource
import CodePager.Proofs.FailedReads
import CodePager.Proofs.Writes
import CodePager.Proofs.PageIndependence
import CodePager.Proofs.Representation
import CodePager.Proofs.Accounting
import CodePager.Proofs.Faults
import CodePager.Proofs.SharedResult
import CodePager.Proofs.Slicing
import CodePager.Proofs.PageRequests
import CodePager.Proofs.Shaping
import CodePager.Proofs.OriginGate
import CodePager.Proofs.Fields
import CodePager.Proofs.Assignments
import CodePager.Proofs.Forwarding
import CodePager.Proofs.SourceReads
import CodePager.Proofs.Ranking
import CodePager.Proofs.LineCuts
import CodePager.Proofs.PageSizes
import CodePager.Proofs.Spellings
import CodePager.Proofs.WordCuts
