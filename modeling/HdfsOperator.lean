import HdfsOperator.Core.GoMap
import HdfsOperator.Core.Text
import HdfsOperator.Core.Unicode
import HdfsOperator.Core.Printf
import HdfsOperator.Core.FixedFormats
import HdfsOperator.Core.Xml
import HdfsOperator.Core.Transition
import HdfsOperator.Core.Cache
import HdfsOperator.Core.FirstSeen
import HdfsOperator.Core.CountedLoop
import HdfsOperator.Core.LastWins
import HdfsOperator.Core.Lines
import HdfsOperator.Core.Shell
import HdfsOperator.Core.Template
import HdfsOperator.Core.Directories
import HdfsOperator.Core.Variables
import HdfsOperator.Core.Encodings
import HdfsOperator.Core.Defaults
import HdfsOperator.Models.Cluster
import HdfsOperator.Models.RoleConfig
import HdfsOperator.Models.PropertiesFile
import HdfsOperator.Correctness.PropertiesFile
import HdfsOperator.Models.XmlConfiguration
import HdfsOperator.Models.PropertyMerge
import HdfsOperator.Models.Components
import HdfsOperator.Models.Replicas
import HdfsOperator.Models.Security
import HdfsOperator.Models.SiteGenerator
import HdfsOperator.Correctness.SiteDocument
import HdfsOperator.Models.ConfigMaps
import HdfsOperator.Correctness.RoleGroupSite
import HdfsOperator.Correctness.RoleGroups
import HdfsOperator.Correctness.MergeByName
import HdfsOperator.Correctness.SharedEdits
import HdfsOperator.Correctness.SiteConsistency
import HdfsOperator.Models.FormatNameNode
import HdfsOperator.Correctness.FormatProtocol
import HdfsOperator.Models.Discovery
import HdfsOperator.Models.ReplicaLoops
import HdfsOperator.Models.WaitForNameNodes
import HdfsOperator.Correctness.NameNodeIds
import HdfsOperator.Correctness.BuildConfig
import HdfsOperator.Correctness.Overrides
import HdfsOperator.Correctness.Discovery
import HdfsOperator.Correctness.ListenerCache
import HdfsOperator.Correctness.IterationOrder
import HdfsOperator.Models.Resources
import HdfsOperator.Models.StatefulSets
import HdfsOperator.Correctness.Resources
import HdfsOperator.Correctness.RoleConfig
import HdfsOperator.Correctness.Registration
import HdfsOperator.Correctness.VectorAgent
import HdfsOperator.Correctness.ClientAgreement
import HdfsOperator.Correctness.ByReplicas
import HdfsOperator.Models.Bootstrap
import HdfsOperator.Correctness.Bootstrap
import HdfsOperator.Models.DataNodeStart
import HdfsOperator.Correctness.DataNodeStart
import HdfsOperator.Models.Scripts
import HdfsOperator.Correctness.Scripts
import HdfsOperator.Models.Containers
import HdfsOperator.Correctness.Containers
import HdfsOperator.Correctness.Principals
import HdfsOperator.Correctness.ServerSettings
import HdfsOperator.Models.Oidc
import HdfsOperator.Correctness.Oidc
