import MeshSync.Dataplane.Recorder

/-! # A wire that misbehaves

    A store that is reached through a wire which can be told to lose a
    request, to lose the answer of a request that was done, or to answer by
    itself.  The wire reports every request with its result. -/

namespace MeshSync.Rehearsal

open Dataplane

/-- What the wire does to one request. -/
structure Rule where
  /-- The method of the request, or any. -/
  method : Option Method
  /-- A part of the request's path. -/
  fragment : String
  /-- How many such requests pass before. -/
  skip : Nat
  /-- Whether the store does the request all the same. -/
  forward : Bool
  /-- The answer, or a status code with a text. -/
  answer : Except (Nat × String) Json

namespace Rule

/-- Whether a rule is about a request. -/
def fits (rule : Rule) (r : Request) : Bool :=
  (rule.method.all (· = r.method)) && Text.contains r.path rule.fragment

/-- The result that a rule gives a request. -/
def result (rule : Rule) (r : Request) : Except Error Json :=
  match rule.answer with
  | .ok answer => .ok answer
  | .error (code, body) => .error (.status r.method.text r.path code body)

/-- Look for the oldest rule about a request: it is counted down, or else used
    up. -/
def consult (r : Request) : List Rule → List Rule × Option Rule
  | [] => ([], none)
  | rule :: rules =>
    if rule.fits r then
      if rule.skip = 0 then (rules, some rule)
      else ({ rule with skip := rule.skip - 1 } :: rules, none)
    else
      let (rules, due) := consult r rules
      (rule :: rules, due)

end Rule

/-- A store behind a wire. -/
structure Wire where
  recorder : Recorder
  rules : List Rule
  /-- The requests since the last report, with their results. -/
  reports : List (Request × Except Error Json)
  /-- The transactions that were opened over the wire, in order. -/
  opened : List String

namespace Wire

/-- A store without objects behind a wire without rules. -/
def new (version : UInt64) : Wire := ⟨.new version, [], [], []⟩

/-- The store. -/
def store (w : Wire) : Store := w.recorder.store

/-- Another writer changes the configuration. -/
def bump (w : Wire) : Wire :=
  { w with recorder := { w.recorder with store := w.store.bump } }

/-- Let the store refuse the next request whose path has this part. -/
def failNext (w : Wire) (part : String) : Wire := { w with recorder := w.recorder.failNext part }

/-- Add a rule. -/
def addRule (w : Wire) (rule : Rule) : Wire := { w with rules := w.rules ++ [rule] }

/-- The result of a request, and the recorder after it, under a rule. -/
def transmit (recorder : Recorder) (r : Request) : Option Rule → Recorder × Except Error Json
  | none => recorder.send r
  | some rule =>
    if rule.forward then
      match recorder.send r with
      | (recorder, .ok _) => (recorder, rule.result r)
      | (recorder, .error e) => (recorder, .error e)
    else (recorder, rule.result r)

/-- The wire after a request, and its result. -/
def send (w : Wire) (r : Request) : Wire × Except Error Json :=
  let (rules, due) := Rule.consult r w.rules
  let (recorder, result) := transmit w.recorder r due
  let count := recorder.store.opened
  let opened := if count = w.store.opened then w.opened else w.opened ++ [transactionId count]
  (⟨recorder, rules, w.reports ++ [(r, result)], opened⟩, result)

/-- Forget the reports. -/
def reported (w : Wire) : Wire := { w with reports := [] }

/-- The request of another writer, at a path in the configuration and in the
    transaction with an id. -/
def foreignRequest (id : String) (r : Request) : Request :=
  let mark := if Text.contains r.path "?" then "&" else "?"
  { r with path := s!"{configurationPath}/{r.path}{mark}transaction_id={id}" }

/-- Send requests past the wire, and tell which were done. -/
def sendForeign : Recorder → List Request → Recorder × List Bool
  | recorder, [] => (recorder, [])
  | recorder, r :: rs =>
    let (recorder, answer) := recorder.send r
    let (recorder, done) := sendForeign recorder rs
    (recorder, answer.isOk :: done)

/-- Another writer stages changes in a transaction of its own and commits it;
    tells which requests, the commit last, were done. -/
def foreign (w : Wire) (changes : List Request) : Wire × List Bool :=
  let (recorder, answer) :=
    w.recorder.send ⟨.post, s!"{transactionsPath}?version={w.store.version}", none⟩
  let id := match answer with
    | .ok opened => ((opened.field? "id").bind Json.string?).getD ""
    | .error _ => ""
  let (recorder, done) := sendForeign recorder
    (changes.map (foreignRequest id) ++ [⟨.put, s!"{transactionsPath}/{id}", none⟩])
  ({ w with recorder := recorder }, done)

/-- The collections of objects. -/
def kinds : List String :=
  ["backends", "binds", "filters", "frontends", "log_targets", "servers", "tcp_request_rules"]

/-- The objects of all collections. -/
def objects (w : Wire) : List (ObjectKey × Json) := kinds.flatMap w.store.objectsOf

end Wire

end MeshSync.Rehearsal
