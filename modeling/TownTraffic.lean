import TownTraffic.Binary.Instance
import TownTraffic.Main
import TownTraffic.Proofs.Freshness
import TownTraffic.Screen.Batch
import TownTraffic.Screen.Playback
import TownTraffic.Session.Caller
import TownTraffic.Session.Registry
import TownTraffic.Viewer.Prepare
import TownTraffic.Proofs.Publications
import TownTraffic.Proofs.Passes
import TownTraffic.Proofs.Stopping
import TownTraffic.Proofs.Isolation
import TownTraffic.Proofs.Literals
import TownTraffic.Proofs.Refusals
import TownTraffic.Proofs.Spoiling
import TownTraffic.Proofs.Trees
import TownTraffic.Proofs.Decimals
import TownTraffic.Proofs.Forms
import TownTraffic.Proofs.Streams
import TownTraffic.Proofs.Requests
import TownTraffic.Proofs.Responses
import TownTraffic.Proofs.Arrivals
import TownTraffic.Proofs.Rounds
import TownTraffic.Proofs.Conversations
import TownTraffic.Proofs.Magnitudes
import TownTraffic.Proofs.Casts
import TownTraffic.Proofs.Rosters
import TownTraffic.Proofs.Seeds
import TownTraffic.Proofs.Dialogues
import TownTraffic.Proofs.Independence
import TownTraffic.Proofs.Exact
import TownTraffic.Proofs.Walks
import TownTraffic.Proofs.Grounds
import TownTraffic.Proofs.Continuity
import TownTraffic.Proofs.Markers
import TownTraffic.Proofs.Preparation
import TownTraffic.Proofs.Views
import TownTraffic.Proofs.Selections
import TownTraffic.Proofs.Overlays
import TownTraffic.Proofs.Labels
import TownTraffic.Proofs.Batches
import TownTraffic.Proofs.Areas
import TownTraffic.Proofs.Spots
import TownTraffic.Proofs.Sheets
import TownTraffic.Proofs.Elapsed
import TownTraffic.Proofs.Signals
import TownTraffic.Proofs.Registrations
import TownTraffic.Proofs.Permits
