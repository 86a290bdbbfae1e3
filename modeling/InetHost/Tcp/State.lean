/-!
# Connection states

`Tcp.State` names the states of a connection, and `State.name` writes them in messages.
-/

namespace InetHost.Tcp

/-- The state of a connection. -/
inductive State where
  | listen
  | synSent
  | synReceived
  | established
  | finWait1
  | finWait2
  | closeWait
  | closing
  | lastAck
  | timeWait
  | closed
  deriving DecidableEq, Repr, Inhabited

namespace State

/-- The name of a state in messages. -/
def name : State → String
  | listen => "Listen"
  | synSent => "SynSent"
  | synReceived => "SynReceived"
  | established => "Established"
  | finWait1 => "FinWait1"
  | finWait2 => "FinWait2"
  | closeWait => "CloseWait"
  | closing => "Closing"
  | lastAck => "LastAck"
  | timeWait => "TimeWait"
  | closed => "Closed"

instance : ToString State := ⟨name⟩

/-- The application may send in this state. -/
def maySend : State → Bool
  | established | closeWait => true
  | _ => false

/-- Data of the peer is taken in this state. -/
def mayReceive : State → Bool
  | established | finWait1 | finWait2 => true
  | _ => false

/-- The host may start to close in this state. -/
def mayClose : State → Bool
  | synReceived | established => true
  | _ => false

/-- A connection in this state is at its end. -/
def isOver : State → Bool
  | timeWait | closed => true
  | _ => false

end State

end InetHost.Tcp
