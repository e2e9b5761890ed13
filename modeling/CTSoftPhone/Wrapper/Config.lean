import Mathlib.Data.Int.Notation
import Mathlib.Data.Nat.Notation

/-!
# The configuration of the phone

`CTSoftPhoneConfig`: a local port and one of six transports. The transport determines the name
written into SIP URIs, the transport type asked of pjsua, and whether IPv6 is in use.

## Main definitions

* `CTSoftPhoneTransportType`, `PjsipTransportType`: the transports of the phone and of pjsip
* `CTSoftPhoneConfig`: the configuration, with `transportDescription`, `pjTransportType`, `isIPv6`
-/

namespace CTSoftPhone

/-- Strings, as the sequences of their characters. -/
abbrev NSString := List Char

/-- The transports an application selects from. -/
inductive CTSoftPhoneTransportType
  | tcp
  | udp
  | tls
  | tcpIPv6
  | udpIPv6
  | tlsIPv6
  deriving DecidableEq, Repr

/-- The raw value of a transport: its position in the enumeration. -/
def CTSoftPhoneTransportType.rawValue : CTSoftPhoneTransportType → ℕ
  | .tcp => 0
  | .udp => 1
  | .tls => 2
  | .tcpIPv6 => 3
  | .udpIPv6 => 4
  | .tlsIPv6 => 5

/-- `pjsip_transport_type_e`, the types the phone asks for. -/
inductive PjsipTransportType
  | udp
  | tcp
  | tls
  | udp6
  | tcp6
  | tls6
  deriving DecidableEq, Repr

/-- The configuration: the port, an `int`, and the transport in use. -/
structure CTSoftPhoneConfig where
  port : ℤ
  transport : CTSoftPhoneTransportType
  deriving DecidableEq, Repr

namespace CTSoftPhoneConfig

/-- The name of the transport in a SIP URI. -/
def transportDescription (config : CTSoftPhoneConfig) : NSString :=
  match config.transport with
  | .tcp => "tcp".toList
  | .udp => "udp".toList
  | .tls => "tls".toList
  | .tcpIPv6 => "tcp".toList
  | .udpIPv6 => "udp".toList
  | .tlsIPv6 => "tls".toList

/-- The type of the transport in pjsip. -/
def pjTransportType (config : CTSoftPhoneConfig) : PjsipTransportType :=
  match config.transport with
  | .tcp => .tcp
  | .udp => .udp
  | .tls => .tls
  | .tcpIPv6 => .tcp6
  | .udpIPv6 => .udp6
  | .tlsIPv6 => .tls6

/-- The IPv6 transports are those after TLS. -/
def isIPv6 (config : CTSoftPhoneConfig) : Bool :=
  decide (CTSoftPhoneTransportType.tls.rawValue < config.transport.rawValue)

/-- The port as an `unsigned` of 32 bits, the type of `pjsua_transport_config.port`. -/
def unsignedPort (config : CTSoftPhoneConfig) : ℤ := config.port % 4294967296

end CTSoftPhoneConfig

end CTSoftPhone
