import CsiOperator.Engine.Session
import CsiOperator.Leader.Elector
import CsiOperator.Main
import CsiOperator.Metrics.Registry
import CsiOperator.Resource.Definition
import CsiOperator.Proofs.DriverNames
import CsiOperator.Proofs.ControllerWorkload
import CsiOperator.Proofs.ObservedState
import CsiOperator.Proofs.ImageTags
import CsiOperator.Proofs.ParkedInstances
import CsiOperator.Proofs.ProxyConfigFile
import CsiOperator.Proofs.ConfigVersionNumbers
import CsiOperator.Proofs.MandatoryEnvs
import CsiOperator.Proofs.PodRefresh
import CsiOperator.Proofs.UnityArrays
import CsiOperator.Proofs.TwinInstallations
import CsiOperator.Proofs.SyncHistory
