import GoPlugin.LabelledSystem
import GoPlugin.MuxBrokerConservation
import GoPlugin.MuxBrokerPair
import GoPlugin.GRPCBrokerPending
import GoPlugin.BrokerDoubleClose
import GoPlugin.GRPCMuxWaitTokens
import GoPlugin.GRPCKnockAck
import GoPlugin.TransportMode
import GoPlugin.Reattach
import GoPlugin.GRPCMuxListeners
import GoPlugin.Dispense
import GoPlugin.ClientResidue
import GoPlugin.GRPCBrokerPair
import GoPlugin.GRPCBrokerProduct
import GoPlugin.BrokerAccept
import GoPlugin.ServeBody
import GoPlugin.StartTrust
import GoPlugin.SecureConfig
import GoPlugin.StdioForwarding
import GoPlugin.ServedProtocol
import GoPlugin.PortSearch
import GoPlugin.StreamerRefinement
import GoPlugin.StdoutDrain
import GoPlugin.LogLevels
import GoPlugin.PanicTrace
import GoPlugin.NetRPCStdio
import GoPlugin.NetRPCDone
import GoPlugin.GRPCShutdown
import GoPlugin.ManagedClients
import GoPlugin.ClientConnect
import GoPlugin.CmdRunner
import GoPlugin.CmdAttachedRunner
import GoPlugin.AcceptAndServe
import GoPlugin.Launch
import GoPlugin.StdioStreams
