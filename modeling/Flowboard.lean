import Flowboard.Http.Listener
import Flowboard.Main
import Flowboard.Proofs.Inert
import Flowboard.Proofs.Lines
import Flowboard.Proofs.Nodes
import Flowboard.Proofs.Onward
import Flowboard.Proofs.Settings
import Flowboard.Proofs.Stable
import Flowboard.Proofs.Traffic
