import CTSoftPhone.Wrapper.Operations
import CTSoftPhone.Lifecycle.Flag
import CTSoftPhone.Lifecycle.Protocol
import CTSoftPhone.Lifecycle.Registering
import CTSoftPhone.Transport.Settings
import CTSoftPhone.Calls.StaleCall
import CTSoftPhone.Calls.Mute
import CTSoftPhone.Lifecycle.Serial
import CTSoftPhone.Lifecycle.Account
import CTSoftPhone.Transport.Creation
import CTSoftPhone.Calls.Delivery
import CTSoftPhone.Calls.Attribution
import CTSoftPhone.Calls.Microphone
import CTSoftPhone.Text.Separated
import CTSoftPhone.Transport.AccountUri
import CTSoftPhone.Lifecycle.SharedInstance
import CTSoftPhone.Lifecycle.Interleaving
import CTSoftPhone.Lifecycle.LastWord
import CTSoftPhone.Lifecycle.Concurrency
import CTSoftPhone.Lifecycle.Delegate
import CTSoftPhone.Lifecycle.Secrecy
import CTSoftPhone.Lifecycle.Wiring
import CTSoftPhone.Calls.Overlap
import CTSoftPhone.Calls.Bridge
import CTSoftPhone.Calls.Live
import CTSoftPhone.Lifecycle.AccountHistory
import CTSoftPhone.Lifecycle.Uncaught
import CTSoftPhone.Lifecycle.Reentrancy
