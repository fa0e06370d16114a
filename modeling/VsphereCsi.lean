import VsphereCsi.Volume.TaskMap
import VsphereCsi.Volume.TaskMapTheorems
import VsphereCsi.Go.Strings
import VsphereCsi.Migration.Service
import VsphereCsi.Migration.ServiceTheorems
import VsphereCsi.Migration.VolumePathTheorems
import VsphereCsi.Migration.Bootstrap
import VsphereCsi.Migration.BootstrapTheorems
import VsphereCsi.Vanilla.ControllerHelper
import VsphereCsi.Vanilla.ControllerHelperTheorems
import VsphereCsi.FeatureStates.Replication
import VsphereCsi.FeatureStates.ReplicationTheorems
import VsphereCsi.FeatureStates.Delivery
import VsphereCsi.FeatureStates.RetryAttempts
import VsphereCsi.FeatureStates.RetryAttemptsTheorems
import VsphereCsi.Mounter.Windows
import VsphereCsi.Mounter.WindowsTheorems
