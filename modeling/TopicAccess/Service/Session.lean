import TopicAccess.Service.Exchange

/-!
# Sessions with a service

In a session requests are interleaved with changes of the files and of the settings, and an
authorizer can be held on to while the service goes on to another.
-/
namespace TopicAccess.Service

/-- An authorizer and the load that it came from. -/
structure Kept where
  authorizer : Authorizer
  load : Nat

/-- One step of a session. -/
inductive Step where
  | request (request : Request)
  | write (path : FileTree.Path) (bytes : List UInt8)
  | remove (path : FileTree.Path)
  | setRuleFile (path : Option String)
  | setStrict (strict : Bool)
  | failDependencies (message : String)
  | keep
  | askKept (operation : Operation) (topic : String) (user : Option String)

/-- What a step gives. The answer of an authorizer that was held on to comes with the word whether
it is still the one in force. -/
inductive Reply where
  | nothing
  | response (response : Response)
  | mode (mode : String)
  | decision (allowed same : Bool)

/-- A service, the files around it and the authorizer that is held on to. -/
structure Session where
  service : Service
  files : FileTree
  kept : Option Kept := none

namespace Session

def withSettings (session : Session) (change : Settings → Settings) : Session :=
  { session with service := { session.service with settings := change session.service.settings } }

/-- Take a step: the session after it, what the step gives and the records that are kept. -/
def step (session : Session) : Step → Session × Reply × List Json.Fields
  | .request request =>
    let (service, response, records) := session.service.handle session.files request
    ({ session with service }, .response response, records)
  | .write path bytes =>
    ({ session with files := session.files.writeFile path bytes }, .nothing, [])
  | .remove path => ({ session with files := session.files.erase path }, .nothing, [])
  | .setRuleFile path =>
    (session.withSettings fun settings => { settings with aclFile := path }, .nothing, [])
  | .setStrict strict =>
    (session.withSettings fun settings => { settings with aclStrict := strict }, .nothing, [])
  | .failDependencies message =>
    let service := { session.service with dependencyFailure := some message }
    ({ session with service }, .nothing, [])
  | .keep =>
    let service := session.service
    ({ session with kept := some ⟨service.authorizer, service.loads⟩ },
      .mode service.authorizer.mode, [])
  | .askKept operation topic user =>
    match session.kept with
    | none => (session, .nothing, [])
    | some kept =>
      let decision := kept.authorizer.decision Topic.covers operation topic (.ofUser user)
      (session, .decision decision.allowed (kept.load == session.service.loads), [])

def run (session : Session) : List Step → Session × List (Reply × List Json.Fields)
  | [] => (session, [])
  | step :: rest =>
    let (after, reply, records) := session.step step
    let (final, replies) := after.run rest
    (final, (reply, records) :: replies)

end Session

end TopicAccess.Service
