import LocalCluster.Cluster.Document
import LocalCluster.Main
import LocalCluster.Rehearsal.Shell.Run
import LocalCluster.Rehearsal.Stage
import LocalCluster.Proofs.Work.Ensures
import LocalCluster.Proofs.Bootstrap.Action
import LocalCluster.Proofs.Bootstrap.Order
import LocalCluster.Proofs.Cluster.Creation
import LocalCluster.Proofs.Cluster.Labels
import LocalCluster.Proofs.Cluster.Endpoints
import LocalCluster.Proofs.Cluster.Listeners
import LocalCluster.Proofs.Cluster.Credentials
import LocalCluster.Proofs.Work.Crew
import LocalCluster.Proofs.Work.Woven
import LocalCluster.Proofs.Work.Serial
import LocalCluster.Proofs.Cluster.Preparation
import LocalCluster.Proofs.Cluster.Provisioning
import LocalCluster.Proofs.Container.Keeping
import LocalCluster.Proofs.Cluster.Leftovers
import LocalCluster.Proofs.Bootstrap.Pipeline
import LocalCluster.Proofs.Bootstrap.Documents
import LocalCluster.Proofs.Container.Grammar
import LocalCluster.Proofs.Cluster.Bindings
import LocalCluster.Proofs.Cluster.Parts
import LocalCluster.Proofs.Cluster.Depictions
import LocalCluster.Proofs.Cluster.Agreement
import LocalCluster.Proofs.Work.Gathering
import LocalCluster.Proofs.Cluster.Removal
import LocalCluster.Proofs.Cluster.Redirection
import LocalCluster.Proofs.Cluster.Custody
import LocalCluster.Proofs.Work.Earliest
import LocalCluster.Proofs.Container.NetworkRace
import LocalCluster.Proofs.Cluster.Rivals
import LocalCluster.Proofs.Bootstrap.Balancing
import LocalCluster.Proofs.Cluster.Wordings
import LocalCluster.Proofs.Cluster.Holding
import LocalCluster.Proofs.Bootstrap.Relisting
import LocalCluster.Proofs.Cluster.LogFiles
import LocalCluster.Proofs.Cluster.Versions
import LocalCluster.Proofs.Cluster.Presentations
import LocalCluster.Proofs.Cluster.Inheritance
import LocalCluster.Proofs.Cluster.Subnets
import LocalCluster.Proofs.Cluster.Drafts
import LocalCluster.Proofs.CommandLine.Configurations
import LocalCluster.Proofs.Container.Outputs
