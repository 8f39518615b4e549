/-
Work under way on a deployment.

Any number of audit sessions and of invocations may be open at once, each under a
name.  A name that is given again stands for the new session or invocation: the
records of the old session are lost, and the old invocation is given up.  A call
may lend one session to the handlers; it changes no other.
-/

import WorkflowBus.Deployment

namespace WorkflowBus

inductive WorkbenchError where
  | noSuchSession
  | noSuchInvocation
  | rejected (error : InvocationError)
  | notRecorded (error : AuditError)
deriving DecidableEq

/-- An event to be published, the name of the session that is lent for it, and the
operation that it is part of. -/
structure Call where
  event : Event
  session : Option String
  operation : Option OperationContext

/-- A deployment with its open audit sessions and invocations, sorted by name. -/
structure Workbench where
  deployment : Deployment
  sessions : List (String × AuditSession)
  invocations : List (String × Invocation)

namespace Workbench

def ofDeployment (deployment : Deployment) : Workbench where
  deployment := deployment
  sessions := []
  invocations := []

def services (bench : Workbench) : Services :=
  bench.deployment.services

def mapServices (bench : Workbench) (change : Services → Services) : Workbench :=
  { bench with deployment := bench.deployment.mapServices change }

/-- What a call lends, if the session that it names is open. -/
def lent? (bench : Workbench) (call : Call) : Except WorkbenchError (Option DispatchContext) :=
  match call.session with
  | none => .ok none
  | some name =>
      match bench.sessions.lookup name with
      | some session => .ok (some ⟨session, call.operation⟩)
      | none => .error .noSuchSession

def takeBack (bench : Workbench) (call : Call) : Deployment.Lent → Workbench
  | (deployment, context) =>
      { bench with
        deployment := deployment
        sessions :=
          match call.session, context with
          | some name, some context => Json.insertMember name context.session bench.sessions
          | _, _ => bench.sessions }

/-- Lets an action work with the deployment and with what a call lends. -/
def lend {α : Type} (bench : Workbench) (call : Call)
    (action : Deployment.Lent → α × Deployment.Lent) : Except WorkbenchError α × Workbench :=
  match bench.lent? call with
  | .error error => (.error error, bench)
  | .ok context =>
      let (answer, lent) := action (bench.deployment, context)
      (.ok answer, bench.takeBack call lent)

def publish (bench : Workbench) (call : Call) : Except WorkbenchError PublishReport × Workbench :=
  bench.lend call (Deployment.publish call.event)

def handle (bench : Workbench) (category : Category) (call : Call) :
    Except WorkbenchError (Option Failure) × Workbench :=
  bench.lend call (Deployment.handle category call.event)

/-- Gives up the invocation of a name, with whether there was one. -/
def dropInvocation (bench : Workbench) (name : String) : Bool × Workbench :=
  match bench.invocations.lookup name with
  | none => (false, bench)
  | some invocation =>
      (true,
        { bench with invocations := Json.eraseKey name bench.invocations }.mapServices
          (·.withTraces invocation.dropTrace?.toList))

def keepInvocation (bench : Workbench) (name : String) (invocation : Invocation) : Workbench :=
  { bench with invocations := Json.insertMember name invocation bench.invocations }

/-- Begins an invocation under a name; one that had the name is given up once the
new one has begun. -/
def beginInvocation (bench : Workbench) (name : String) (call : Call) :
    Except WorkbenchError PublishReport × Workbench :=
  match bench.lend call (Invocation.start Deployment.publish call.event) with
  | (.error error, bench) => (.error error, bench)
  | (.ok (.error error), bench) => (.error (.rejected error), bench)
  | (.ok (.ok (invocation, report)), bench) =>
      (.ok report, (bench.dropInvocation name).2.keepInvocation name invocation)

def endInvocation (bench : Workbench) (name : String) (stage : Stage) (call : Call) :
    Except WorkbenchError PublishReport × Workbench :=
  match bench.lent? call, bench.invocations.lookup name with
  | .error error, _ => (.error error, bench)
  | .ok _, none => (.error .noSuchInvocation, bench)
  | .ok context, some invocation =>
      let (result, invocation, lent) :=
        Invocation.finish Deployment.publish invocation stage call.event
          (bench.deployment, context)
      (result.mapError .rejected, (bench.takeBack call lent).keepInvocation name invocation)

def keepSession (bench : Workbench) (name : String) (session : AuditSession) : Workbench :=
  { bench with sessions := Json.insertMember name session bench.sessions }

def recordAudit (bench : Workbench) (record : AuditRecord) :
    Except WorkbenchError Uuid × Workbench :=
  let (answer, services) := bench.services.recordAudit record
  (answer.mapError .notRecorded, bench.mapServices fun _ => services)

def recordInSession (bench : Workbench) (name : String) (record : AuditRecord) :
    Except WorkbenchError Uuid × Workbench :=
  match bench.sessions.lookup name with
  | none => (.error .noSuchSession, bench)
  | some session =>
      let (answer, session, ids) := session.record bench.services.ids record
      (answer.mapError .notRecorded,
        (bench.keepSession name session).mapServices fun services => { services with ids := ids })

def closeSession (bench : Workbench) (name : String) : Option AuditSession × Workbench :=
  (bench.sessions.lookup name, { bench with sessions := Json.eraseKey name bench.sessions })

/-- Commits the session of a name and closes it.  A session that takes no records
is closed and counts as none. -/
def commit (bench : Workbench) (name : String) : Except WorkbenchError (List Uuid) × Workbench :=
  let (session, bench) := bench.closeSession name
  match session.bind fun session => session.commit? bench.services.now bench.services.audit with
  | none => (.error .noSuchSession, bench)
  | some (ids, audit) =>
      (.ok ids, bench.mapServices fun services => { services with audit := audit })

def rollback (bench : Workbench) (name : String) : Except WorkbenchError Unit × Workbench :=
  let (session, bench) := bench.closeSession name
  match session.bind AuditSession.rollback? with
  | none => (.error .noSuchSession, bench)
  | some trace => (.ok (), bench.mapServices (·.withTraces [trace]))

def countsJson (bench : Workbench) : Json :=
  .obj [("audit", .ofCount bench.services.audit.entries.length),
    ("logs", .ofCount bench.services.log.records.length),
    ("sent", .ofCount bench.services.notifications.sent.length),
    ("revocations", .ofCount bench.services.sessions.revocations.length),
    ("pending", .arr (bench.sessions.map fun (name, session) =>
      .arr [.str name, (session.pendingCount?.map Json.ofCount).getD .null]))]

end Workbench
end WorkflowBus
