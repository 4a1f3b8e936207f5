import CANopenNode.Driver.Frame
import CANopenNode.Driver.RxTable
import CANopenNode.Driver.RxWait
import CANopenNode.Error.Handler
import CANopenNode.Error.Noack
import CANopenNode.Error.ListenOnly
import CANopenNode.Canopen.ObjectDictionary
import CANopenNode.Canopen.Part000
import CANopenNode.Canopen.Tasks
import CANopenNode.Canopen.Part001
import CANopenNode.Canopen.Startup
import CANopenNode.Canopen.OdAccess
import CANopenNode.Canopen.DaisyChain
import CANopenNode.Canopen.NodeId
import CANopenNode.Canopen.Registrations
import CANopenNode.Canopen.PdoControl
import CANopenNode.Canopen.PowerOnCounter
import CANopenNode.Canopen.Objects
import CANopenNode.Canopen.Terminal
