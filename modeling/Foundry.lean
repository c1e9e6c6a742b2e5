import Foundry.Properties.Activity
import Foundry.Properties.ActivityWaits
import Foundry.Properties.Approvals
import Foundry.Properties.EnvRefresh
import Foundry.Properties.Coalescing
import Foundry.Properties.DeliveryBatches
import Foundry.Properties.EventBudgets
import Foundry.Properties.EventNumbers
import Foundry.Properties.DeletionProofs
import Foundry.Properties.SandboxOwnership
import Foundry.Properties.HardLinks
import Foundry.Properties.Idempotency
import Foundry.Properties.IdleStops
import Foundry.Properties.Intents
import Foundry.Properties.Journals
import Foundry.Properties.LoopAnswers
import Foundry.Properties.PoolPreparations
import Foundry.Properties.PowerClaims
import Foundry.Properties.ProfileLocks
import Foundry.Properties.Profiles
import Foundry.Properties.IncomingFiles
import Foundry.Properties.Publications
import Foundry.Properties.Quiescence
import Foundry.Properties.Credentials
import Foundry.Properties.ClaimLoop
import Foundry.Properties.RegistryQuiescence
import Foundry.Properties.RoutineApprovals
import Foundry.Properties.RoutineCommands
import Foundry.Properties.RoutineReports
import Foundry.Properties.RoutineTranscripts
import Foundry.Properties.Selectors
import Foundry.Properties.Sessions
import Foundry.Properties.Souls
import Foundry.Properties.Recovery
import Foundry.Properties.Statuses
import Foundry.Properties.Terminal
import Foundry.Properties.LostClaims
import Foundry.Properties.MemoryTeardown
import Foundry.Properties.ModelBindings
