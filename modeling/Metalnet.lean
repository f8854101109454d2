import Metalnet.Netip
import Metalnet.Metalbond
import Metalnet.Tables
import Metalnet.Dpdk
import Metalnet.Proofs.Run
import Metalnet.Proofs.Realize
import Metalnet.Proofs.Tables
import Metalnet.Proofs.Cleanup
import Metalnet.Proofs.Announcements
import Metalnet.Proofs.Idempotence
import Metalnet.Proofs.Interleaving
import Metalnet.Proofs.Isolation
import Metalnet.Proofs.Netip
import Metalnet.Proofs.Netip6
import Metalnet.Proofs.Contains
import Metalnet.Proofs.Client
