/-
# A TCP request and the bytes it puts on the wire

The request specification, the protocol header a fresh connection starts with (every
mode but `echo`), and the framing of an `echo` payload.
-/
import Mathlib.Data.List.Basic

namespace Netanvil.Tcp

inductive IpAddr where
  | v4 (bits : BitVec 32)
  | v6 (bits : BitVec 128)
  deriving DecidableEq

structure SocketAddr where
  ip : IpAddr
  port : UInt16
  deriving DecidableEq

inductive TcpTestMode where
  | echo
  | rr
  | sink
  | source
  | bidir
  | crr
  deriving DecidableEq

inductive TcpFraming where
  | raw
  | lengthPrefixed (width : UInt8)
  | delimiter (delim : List UInt8)
  | fixedSize (size : Nat)

structure TcpRequestSpec where
  target : SocketAddr
  payload : List UInt8
  framing : TcpFraming
  expectResponse : Bool
  responseMaxBytes : Nat
  mode : TcpTestMode
  requestSize : UInt16
  responseSize : UInt32
  latencyUs : Option UInt32
  errorRate : Option UInt32

def beBytes16 (n : UInt16) : List UInt8 := [(n >>> 8).toUInt8, n.toUInt8]

def beBytes32 (n : UInt32) : List UInt8 :=
  [(n >>> 24).toUInt8, (n >>> 16).toUInt8, (n >>> 8).toUInt8, n.toUInt8]

/-- The mode byte of the header. The source panics on `echo`, which has none. -/
def modeByte : (mode : TcpTestMode) → mode ≠ .echo → UInt8
  | .rr, _ => 0x01
  | .sink, _ => 0x02
  | .source, _ => 0x03
  | .bidir, _ => 0x04
  | .crr, _ => 0x05

/-- The v2 protocol header. -/
def encodeHeader (spec : TcpRequestSpec) (headed : spec.mode ≠ .echo) : List UInt8 :=
  let flags : UInt8 :=
    (if spec.latencyUs.isSome then 0x02 else 0) ||| (if spec.errorRate.isSome then 0x04 else 0)
  let headerLen : Nat :=
    10 + (if spec.latencyUs.isSome then 4 else 0) + (if spec.errorRate.isSome then 4 else 0)
  [0xF0, headerLen.toUInt8, modeByte spec.mode headed, flags] ++ beBytes16 spec.requestSize ++
    beBytes32 spec.responseSize ++ (spec.latencyUs.map beBytes32).getD [] ++
    (spec.errorRate.map beBytes32).getD []

/-- Frame an outgoing payload. A length prefix truncates the length to its width. -/
def encodeFrame (payload : List UInt8) : TcpFraming → List UInt8
  | .raw => payload
  | .lengthPrefixed width =>
    let len := payload.length
    let lenBytes :=
      if width = 1 then [len.toUInt8]
      else if width = 2 then beBytes16 len.toUInt16
      else beBytes32 len.toUInt32
    lenBytes ++ payload
  | .delimiter delim => payload ++ delim
  | .fixedSize size => payload.take size ++ List.replicate (size - payload.length) 0

end Netanvil.Tcp
