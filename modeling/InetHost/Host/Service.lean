import InetHost.Host.Datagram
import InetHost.Host.Stream

/-!
# Services

* `serveEcho`: port 7 sends back what it gets, on connections and in datagrams;
* `servePage`: port 80 answers every read with `page`.
-/

namespace InetHost.Host

/-! ## Echo -/

/-- The port of the echo service. -/
def echoPort : UInt16 := 7

/-- Send data back on its connection. -/
def echoStream (s : Stream) (data : Bytes) : Act Unit := do
  match ← sendData s data with
  | .ok _ => pure ()
  | .error e => note (.streamEchoFailed s.peer e)

/-- Send a datagram back to where it came from. -/
def echoDatagram (f : Flow) (data : Bytes) : Act Unit := do
  match ← sendDatagram f.reverse data with
  | .ok _ => pure ()
  | .error e => note (.datagramEchoFailed f.src e)

/-- Start the echo service. -/
def serveEcho : Act (Except NetError Unit) := do
  match ← listen echoPort .echo with
  | .error e =>
    note (.echoListenFailed e)
    return .error e
  | .ok _ =>
    subscribe echoPort .echo
    return .ok ()

/-! ## The page -/

/-- The port of the page service. -/
def pagePort : UInt16 := 80

/-- The page, with the header lines in front of it. -/
def page : Bytes :=
  ("HTTP/1.1 200 OK\r\nContent-Type: text/html\r\nContent-Length: 26\r\n\r\n" ++
    "<html>Bad-OS 64</html>\r\n\r\n").toUTF8.toList

/-- Answer a read with the page. -/
def sendPage (s : Stream) : Act Unit := do
  match ← sendData s page with
  | .ok _ => pure ()
  | .error e => note (.pageFailed s.peer e)

/-- Start the page service. -/
def servePage : Act (Except NetError Unit) := do
  let r ← listen pagePort .page
  match r with
  | .ok _ => pure ()
  | .error e => note (.pageListenFailed e)
  return r

end InetHost.Host
