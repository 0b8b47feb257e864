import MeshSync.Certificates.Paths
import MeshSync.Dataplane.Operation
import MeshSync.Snapshot

/-! # Listeners

    The objects by which the proxy serves the downstream and each upstream.
    Every listener has a frontend and a backend of its own, so deleting the
    two deletes all of it, and no listener touches the objects of another.

    A listener is built in parts: operations, and operations that need the
    certificate files of a material. -/

namespace MeshSync.Reconcile

open Dataplane

/-- Settings that are no part of a snapshot. -/
structure Options where
  /-- Whether the intentions agent is asked about incoming connections. -/
  enableIntentions : Bool
  /-- The path of the agent's configuration. -/
  spoeConfig : String
  /-- The socket that the proxy logs to. -/
  logSocket : String
  deriving DecidableEq, Inhabited

/-- The settings where nothing is set. -/
def Options.standard : Options := ⟨false, "", "/var/run/haproxy-log.sock"⟩

/-- The names of a listener's frontend and backend. -/
structure Listener where
  frontend : String
  backend : String
  deriving DecidableEq, Inhabited

/-- Which of a listener's two objects are there. -/
structure Existing where
  frontend : Bool
  backend : Bool
  deriving DecidableEq, Inhabited

namespace Existing

/-- Neither is there. -/
def neither : Existing := ⟨false, false⟩

/-- Both are there. -/
def both : Existing := ⟨true, true⟩

end Existing

/-- A part of what is staged. -/
inductive Part where
  | plain (op : Operation)
  /-- Operations that need the certificate files of a material. -/
  | sealed (material : TlsMaterial) (ops : Certificates.Paths → List Operation)

/-- Timeouts of clients, servers and connects, in milliseconds. -/
def timeout : UInt64 := 1000

/-- Where a frontend or backend logs to. -/
def logTarget (options : Options) : LogTarget :=
  { id := 0, address := options.logSocket, facility := .local0, format := .rfc5424 }

namespace Listener

/-- The listener that mesh traffic enters by. -/
def downstream : Listener := ⟨"front_downstream", "back_downstream"⟩

/-- What the name of an upstream's frontend begins with. -/
def upstreamFrontendLead : String := "front_upstream_"

/-- What the name of an upstream's backend begins with. -/
def upstreamBackendLead : String := "back_upstream_"

/-- The listener of an upstream. -/
def upstream (service : String) : Listener :=
  ⟨upstreamFrontendLead ++ service, upstreamBackendLead ++ service⟩

/-- The name of the frontend's bind. -/
def bindName (l : Listener) : String := s!"{l.frontend}_bind"

/-- Delete what is there of a listener. -/
def teardown (l : Listener) (existing : Existing) : List Operation :=
  (if existing.frontend then [.deleteFrontend l.frontend] else []) ++
    (if existing.backend then [.deleteBackend l.backend] else [])

/-- Create the frontend. -/
def createFrontend (l : Listener) : Operation :=
  .createFrontend
    { name := l.frontend
      defaultBackend := some l.backend
      clientTimeout := some timeout
      mode := some .http
      httplog := true }

/-- Create the backend. -/
def createBackend (l : Listener) (balance : Option Balance) : Operation :=
  .createBackend
    { name := l.backend
      mode := some .http
      serverTimeout := some timeout
      connectTimeout := some timeout
      balance := balance }

/-- Let the frontend log. -/
def logFrontend (l : Listener) (options : Options) : Operation :=
  .createLogTarget (.frontend l.frontend) (logTarget options)

/-- Let the backend log. -/
def logBackend (l : Listener) (options : Options) : Operation :=
  .createLogTarget (.backend l.backend) (logTarget options)

end Listener

/-! ## The downstream -/

namespace Downstream

/-- The engine of the intentions agent. -/
def engine : String := "intentions"

/-- The condition that the agent has let the connection pass. -/
def authorized : String := "\x7b var(sess.connect.auth) -m int eq 1 \x7d"

/-- The bind, which shows a certificate. -/
def bind (d : Downstream) (paths : Certificates.Paths) : Bind :=
  { name := Listener.downstream.bindName
    address := d.localBindAddress
    port := some d.localBindPort
    ssl := true
    sslCertificate := some paths.certificate
    sslCafile := some paths.caFile
    verify := none }

/-- Ask the intentions agent about connections. -/
def intentions (options : Options) : List Operation :=
  if options.enableIntentions then
    [.createFilter (.frontend Listener.downstream.frontend)
       { id := 0, type := .spoe, spoeEngine := engine, spoeConfig := options.spoeConfig },
     .createTcpRequestRule (.frontend Listener.downstream.frontend)
       { id := 0, type := .content, action := .accept, cond := .if_, condTest := authorized }]
  else []

/-- The server that the application is. -/
def server (d : Downstream) : Server :=
  { name := "downstream_node"
    address := d.targetAddress
    port := some d.targetPort
    weight := none
    ssl := none
    sslCertificate := none
    sslCafile := none
    verify := none }

/-- Everything behind the frontend. -/
def rest (d : Downstream) (options : Options) (paths : Certificates.Paths) : List Operation :=
  let l := Listener.downstream
  [.createBind l.frontend (bind d paths), l.logFrontend options] ++ intentions options ++
    [l.createBackend none, l.logBackend options, .createServer l.backend (server d)]

/-- Build the listener. -/
def build (d : Downstream) (options : Options) : List Part :=
  [.plain Listener.downstream.createFrontend, .sealed d.tls (rest d options)]

end Downstream

/-! ## Upstreams -/

namespace Upstream

/-- The address an upstream is bound to where none is declared. -/
def standardAddress : String := "127.0.0.1"

/-- The bind, which is plain. -/
def bind (u : Upstream) : Bind :=
  { name := (Listener.upstream u.service).bindName
    address := if u.localBindAddress.isEmpty then standardAddress else u.localBindAddress
    port := some u.localBindPort
    ssl := false
    sslCertificate := none
    sslCafile := none
    verify := none }

/-- The server for the endpoint at a place in the list. -/
def server (u : Upstream) (paths : Certificates.Paths) (e : Endpoint) (place : Nat) : Server :=
  { name := s!"{u.service}_{place}"
    address := e.host
    port := some e.port
    weight := some e.weight
    ssl := some .enabled
    sslCertificate := some paths.certificate
    sslCafile := some paths.caFile
    verify := some .required }

/-- Everything but the servers. -/
def frame (u : Upstream) (options : Options) : List Operation :=
  let l := Listener.upstream u.service
  [l.createFrontend, .createBind l.frontend (bind u), l.logFrontend options,
    l.createBackend (some ⟨"roundrobin"⟩), l.logBackend options]

/-- The servers, one for each endpoint. -/
def servers (u : Upstream) (paths : Certificates.Paths) : List Operation :=
  u.endpoints.mapIdx fun i e =>
    .createServer (Listener.upstream u.service).backend (server u paths e i)

/-- Build the listener; without endpoints no certificate is needed. -/
def build (u : Upstream) (options : Options) : List Part :=
  (frame u options).map .plain ++
    (if u.endpoints.isEmpty then [] else [.sealed u.tls (servers u)])

end Upstream

end MeshSync.Reconcile
