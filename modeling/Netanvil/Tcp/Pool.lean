/-
# The per-core connection pool

The pool knows its idle connections and a count of the active ones; the limit covers
both. The count is kept by explicit calls: whoever takes or opens a connection owes
the pool exactly one `returnIdle` or `recordDropped`.
-/
import Netanvil.Tcp.Spec

namespace Netanvil.Tcp

/-- An open stream, by the address it was opened to. -/
structure TcpStream where
  peer : SocketAddr

structure PooledConnection where
  stream : TcpStream
  headerSent : Bool
  requestCount : Nat
  readerSpawned : Bool

structure ConnectionPool where
  idle : List PooledConnection
  active : Nat
  maxConnections : Nat

namespace ConnectionPool

/-- `maxConnections = 0` means unlimited. -/
def new (maxConnections : Nat) : ConnectionPool := ⟨[], 0, maxConnections⟩

/-- Take an idle connection if one is available. -/
def takeIdle (p : ConnectionPool) : ConnectionPool × Option PooledConnection :=
  match p.idle with
  | conn :: rest => ({ p with idle := rest, active := p.active + 1 }, some conn)
  | [] => (p, none)

def canOpenNew (p : ConnectionPool) : Bool :=
  p.maxConnections == 0 || decide (p.active + p.idle.length < p.maxConnections)

def recordOpened (p : ConnectionPool) : ConnectionPool := { p with active := p.active + 1 }

def recordDropped (p : ConnectionPool) : ConnectionPool :=
  { p with active := if p.active > 0 then p.active - 1 else p.active }

def returnIdle (p : ConnectionPool) (conn : PooledConnection) : ConnectionPool :=
  { p with
    active := if p.active > 0 then p.active - 1 else p.active
    idle := p.idle ++ [conn] }

/-- Connections the pool has accounted for. -/
def size (p : ConnectionPool) : Nat := p.active + p.idle.length

/-- The limit covers active and idle connections. -/
def Bounded (p : ConnectionPool) : Prop := p.maxConnections = 0 ∨ p.size ≤ p.maxConnections

theorem canOpenNew_iff (p : ConnectionPool) :
    p.canOpenNew = true ↔ p.maxConnections = 0 ∨ p.size < p.maxConnections := by
  simp [canOpenNew, size]

end ConnectionPool

end Netanvil.Tcp
