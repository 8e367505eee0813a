import Ravel.Coordinator.Loop
import Ravel.Coordinator.Hysteresis
import Ravel.Bgp.Types
import Ravel.Bgp.Addresses
import Ravel.Bgp.Server
import Ravel.Bgp.Steps
import Ravel.Bgp.Freshness
import Ravel.Bgp.Snapshots
import Ravel.Bgp.Reconfigure
import Ravel.Bgp.Lifecycle
import Ravel.Bgp.DriftPath
import Ravel.Bgp.Sequential
import Ravel.Bgp.Reconcile
import Ravel.Bgp.Convergence
import Ravel.Go.HostPort
import Ravel.Bgp.Services
