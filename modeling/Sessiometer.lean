import Sessiometer.Effects.Pool
import Sessiometer.Daemon.Rotation
import Sessiometer.Daemon.Ranking
import Sessiometer.Daemon.Relief
import Sessiometer.Daemon.HighWater
import Sessiometer.Daemon.Composed
import Sessiometer.Daemon.Preview
import Sessiometer.Daemon.Walk
import Sessiometer.Daemon.Cleared
import Sessiometer.Daemon.Watch
import Sessiometer.Daemon.Own
import Sessiometer.Daemon.SystemicRefresh
import Sessiometer.Daemon.CanaryAlarm
import Sessiometer.Store.Tiers
import Sessiometer.Daemon.Anchor
import Sessiometer.Daemon.Throttle
import Sessiometer.Daemon.Churn
import Sessiometer.Daemon.Brackets
import Sessiometer.Daemon.Schedule
import Sessiometer.Daemon.Roster
import Sessiometer.Daemon.Provenance
import Sessiometer.Daemon.SweepRuns
import Sessiometer.Refresh.CompareAndSet
import Sessiometer.Refresh.Custody
import Sessiometer.Daemon.Promotion
import Sessiometer.Log.FollowRuns
import Sessiometer.Log.ReadBack
import Sessiometer.Log.Merged
import Sessiometer.Keychain.Reap
import Sessiometer.Stats.Since
import Sessiometer.Stats.Velocity
import Sessiometer.Reliability.Landing
import Sessiometer.Daemon.Divergence
import Sessiometer.Backup.RingRuns
import Sessiometer.Menubar.Stream
import Sessiometer.Status.Agreement
import Sessiometer.Usage.Request
import Sessiometer.Usage.Response
import Sessiometer.Swap.Attributed
import Sessiometer.Stats.Estimate
import Sessiometer.Daemon.SlowPoll
import Sessiometer.Status.Synchronized
import Sessiometer.Menubar.Notified
import Sessiometer.Stats.SwapHistory
import Sessiometer.Keychain.StashRead
import Sessiometer.Menubar.Saved
import Sessiometer.Stats.Census
import Sessiometer.Config.Sound
import Sessiometer.Reliability.Episodes
import Sessiometer.Reliability.Holds
import Sessiometer.Migration.Exported
import Sessiometer.Roster.Runs
import Sessiometer.Backup.Undo
