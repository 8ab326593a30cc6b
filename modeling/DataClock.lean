import DataClock.Support.Word
import DataClock.Model.Protobufs
import DataClock.Model.Peers
import DataClock.Model.Sync
import DataClock.Model.Collect
import DataClock.Sync.Session
import DataClock.Sync.Collect
import DataClock.Sync.Progress
import DataClock.Sync.Violations
import DataClock.Sync.Ahead
import DataClock.Sync.Peers
import DataClock.Model.Prove
import DataClock.Model.Race
import DataClock.Prove.Sequential
import DataClock.Prove.Race
import DataClock.Prove.Errors
import DataClock.Prove.Serial
import DataClock.Prove.Progress
import DataClock.Model.Subscribe
import DataClock.Subscribe.Stream
import DataClock.Model.PeerScores
import DataClock.PeerScores.Runs
