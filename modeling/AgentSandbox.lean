import AgentSandbox.Lib.KeyedFifo
import AgentSandbox.Lib.Unordered
import AgentSandbox.Lib.GoErrors
import AgentSandbox.Lib.KeyedList
import AgentSandbox.Lib.GoStrings
import AgentSandbox.Lib.IpAddress
import AgentSandbox.Lib.GoNet
import AgentSandbox.Lib.PyIpaddress
import AgentSandbox.Queue.SimpleSandboxQueue
import AgentSandbox.Queue.Refinement
import AgentSandbox.Queue.Concurrent
import AgentSandbox.Kube.Meta
import AgentSandbox.Kube.Conditions
import AgentSandbox.Claim.PodMetadata
import AgentSandbox.Claim.Expiry
import AgentSandbox.Claim.VolumeClaimTemplates
import AgentSandbox.Claim.EnvInjection
import AgentSandbox.Controller.PodMetadata
import AgentSandbox.Controller.PodMetadataSync
import AgentSandbox.Router.Headers
import AgentSandbox.Router.PythonRouter
import AgentSandbox.GoClient.Lifecycle
import AgentSandbox.GoClient.Connector
import AgentSandbox.Lib.Emit
import AgentSandbox.Controller.Reconcile
import AgentSandbox.Controller.SandboxConditions
import AgentSandbox.Controller.ServicePorts
import AgentSandbox.Lib.Resumption
import AgentSandbox.Claim.Adoption
import AgentSandbox.Claim.CandidateScan
import AgentSandbox.WarmPool.Scaling
import AgentSandbox.Lib.PercentEncoding
import AgentSandbox.GoClient.Files
import AgentSandbox.Router.Retry
import AgentSandbox.WarmPool.Staleness
import AgentSandbox.Lib.GoFlag
import AgentSandbox.Router.Config
import AgentSandbox.Claim.WarmKeys
import AgentSandbox.Lib.LastWrite
import AgentSandbox.Router.PodCache
import AgentSandbox.Router.Authz
import AgentSandbox.Router.Proxy
import AgentSandbox.Lib.ExpireCache
import AgentSandbox.Api.Sandbox
import AgentSandbox.Api.Extensions
import AgentSandbox.Template.NetworkPolicy
import AgentSandbox.WarmPool.Members
import AgentSandbox.WarmPool.Reconcile
import AgentSandbox.WarmPool.Ownership
