import CsiLvm.Lib.Runtime
import CsiLvm.Lib.Expand
import CsiLvm.Lib.Apimachinery
import CsiLvm.Attacher.Main
import CsiLvm.Api
import CsiLvm.Controller.VolumeName
import CsiLvm.Controller.Secrets
import CsiLvm.Controller.Provision
import CsiLvm.Proofs.Prepare
import CsiLvm.Proofs.Backoff
import CsiLvm.Proofs.Runs
import CsiLvm.Proofs.Volume
import CsiLvm.Proofs.VolumeSource
import CsiLvm.Proofs.Attacher
