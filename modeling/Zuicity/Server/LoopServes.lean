import Zuicity.Server.LoopTasks
import Zuicity.Server.ProxyConnectionRun

/-!
# Errors of one client in the server loops

The proxy loop counts the errors of a stream and goes on.  The TCP loop returns with the error of a
relay, and the UDP loop with that of a header, unless the connection was lost: one client ends the loop
for all.
-/

namespace Zuicity

variable {event : TcpProxyEvent} {i : Nat}

namespace TcpProxyTask

def Good (t : TcpProxyTask) : Prop := ∀ r, t.ended = some r → (∃ report, r = .ok (.ok report)) ∨
    ∃ e, r = .ok (.error (.transport e)) ∧ proxyConnectionClosed e = true

variable {t : TcpProxyTask}

end TcpProxyTask

namespace ProxyConnection

end ProxyConnection

namespace UdpConnectionTask

structure Good (t : UdpConnectionTask) : Prop where
  inv : t.phase = .serving → t.connection.InvAt
  exit : t.connection.exit = none
  relays : t.connection.relayPanicked = false
  result : ∀ r, t.ended = some r → ∃ report, r = .ok (.ok report)

variable {t : UdpConnectionTask}

variable {metrics : ServerMetrics}

end UdpConnectionTask

/-! ## the proxy loop -/

namespace ProxyTask

structure Good (t : ProxyTask) : Prop where
  exit : t.phase = .serving → t.connection.exit = none
  relays : t.connection.relayPanicked = false
  result : ∀ r, t.ended = some r → ∃ report, r = .ok (.ok report)

variable {t : ProxyTask}

variable {metrics : ServerMetrics}

end ProxyTask

/-! ## the three loops -/

section
open ServerLoop
variable {users : List (Uuid × Bytes)} (husers : users ≠ [])
include husers

end

section
variable {S : Service} {Bad : ServerLoop S → LoopEvent S → Prop} {users : List (Uuid × Bytes)}

end

end Zuicity
