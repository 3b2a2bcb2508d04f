import Thanos.Compact.Primitives
import Thanos.Compact.Errors
import Thanos.Compact.Metadata
import Thanos.Compact.CompactionGroup
import Thanos.Compact.ProgressCalculators
import Thanos.Compact.Grouper
import Thanos.Compact.Collaborators
import Thanos.Compact.CompactionProgress
import Thanos.Compact.MetaSyncer
import Thanos.Compact.NoCompactionMarkFilter
import Thanos.Compact.GroupCompaction
import Thanos.Compact.CompactionPhases
import Thanos.Compact.CompactionSafety
import Thanos.Compact.CompactionFailures
import Thanos.Compact.CompactionPasses
import Thanos.Compact.OutOfOrderChunks
import Thanos.Compact.ErrorOrigins
import Thanos.Compact.PassSafety
import Thanos.Compact.CompactorLoop
import Thanos.Compact.Issue347Repair
